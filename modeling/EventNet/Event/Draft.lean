import EventNet.Event.Steps

/-!
Drafts: events as their writers give them.

A draft has to say the type; everything else may be missing.  A missing identity and a missing time are
those of a stamp, which grows from draft to draft, so drafts without identities never share one.
-/

namespace EventNet

/-- The stamp that comes after a stamp: the next identity, a second later. -/
def Stamp.next (s : Stamp) : Stamp :=
  ⟨⟨s.id.bits + 1⟩, { s.time with seconds := s.time.seconds + 1 }⟩

/-- Read a draft. -/
def Event.ofDraft? (stamp : Stamp) (j : Json) : Option Event := do
  let r ← j.record? ["type", "data", "id", "ts", "metadata", "stream", "version"]
  let type ← r.required "type" Json.str?
  let data ← r.withDefault "data" .null some
  let id ← r.nullable "id" identityOfJson?
  let time ← r.nullable "ts" instantOfJson?
  let metadata ← r.nullable "metadata" Metadata.ofJson?
  let stream ← r.nullable "stream" Json.str?
  let version ← r.nullable "version" Json.int64?
  some ⟨id.getD stamp.id, stream.getD "", type, version.getD noStream, time.getD stamp.time, data,
    metadata⟩

/-- Read drafts one after the other, the first with a stamp and each with the next one. -/
def Event.ofDrafts? (stamp : Stamp) : List Json → Option (List Event)
  | [] => some []
  | j :: rest => do
    let e ← Event.ofDraft? stamp j
    let events ← ofDrafts? stamp.next rest
    some (e :: events)

end EventNet
