import EventNet.Settings.Basic
import EventNet.Store.Address
import EventNet.Store.Basic

/-!
Opening the store that settings describe.
-/

namespace EventNet

/-- Open a store, given which directories there are. -/
def StoreSettings.openStore (isDirectory : String → Bool) (s : StoreSettings) :
    Traced (Except Fault Store) := do
  Traced.log .info "opening event store"
  match s.backend with
  | .memory => pure (.ok (.memory (.new s.subscriptionBuffer)))
  | .database =>
    let r ← Database.connect isDirectory s.url s.subscriptionBuffer
    pure (r.map fun (c, db) => .database c db)

end EventNet
