import EventNet.Store.Table

/-!
Overwriting columns of stored rows.

A database can be changed by others than its connections.  The functions here change one column in all
rows of a stream, and so tell which columns hold text and which hold integers.
-/

namespace EventNet

/-- The text that a column of texts holds for a value. -/
def columnText? : Json → Option String
  | .int n => some (toString n)
  | .str s => some s
  | _ => none

namespace Tables

/-- Overwrite a column of the event rows of a stream; only metadata can be missing. -/
def overwriteEvents? (t : Tables) (column stream : String) (value : Json) : Option Tables :=
  let change (f : EventRow → EventRow) : Tables := t.updateEvents stream f
  match column with
  | "id" => (columnText? value).map fun id => change ({ · with id })
  | "data" => (columnText? value).map fun data => change ({ · with data })
  | "metadata" => some (change ({ · with metadata := columnText? value }))
  | "timestamp" => value.int64?.map fun time => change ({ · with time })
  | _ => none

/-- Overwrite a column of the snapshot row of a stream. -/
def overwriteSnapshot? (t : Tables) (column stream : String) (value : Json) : Option Tables :=
  let change (f : SnapshotRow → SnapshotRow) : Tables := t.updateSnapshot stream f
  match column with
  | "state" => (columnText? value).map fun state => change ({ · with state })
  | "created_at" => value.int64?.map fun createdAt => change ({ · with createdAt })
  | _ => none

/-- Overwrite a column in all rows of a stream. -/
def overwrite? (t : Tables) (table column stream : String) (value : Json) : Option Tables :=
  match table with
  | "events" => t.overwriteEvents? column stream value
  | "snapshots" => t.overwriteSnapshot? column stream value
  | _ => none

end Tables

end EventNet
