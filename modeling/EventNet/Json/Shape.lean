import EventNet.Json.Basic

/-!
Reading typed data out of JSON trees.

A decoder answers none for a tree that does not have its shape.  A record is given as an object or as
an array of its fields in declaration order.  In an object unknown fields are skipped and a known
field may not occur twice; in an array there may be no surplus item.  A field is read as required, as
optional (null and, in an object, absence mean none) or with a default for absence.
-/

namespace EventNet.Json

/-- The fields of a record by name, and whether it was given as an array. -/
structure Record where
  find? : String → Option Json
  asArray : Bool

/-- Read a tree as a record of the named fields. -/
def record? (names : List String) : Json → Option Record
  | .obj fields =>
    let twice := names.any fun n => 1 < (fields.filter (·.1 == n)).length
    if twice then none
    else some ⟨fun n => (fields.find? (·.1 == n)).map (·.2), false⟩
  | .arr items =>
    if names.length < items.length then none
    else some ⟨fun n => ((names.zip items).find? (·.1 == n)).map (·.2), true⟩
  | _ => none

namespace Record

variable {α : Type}

/-- A field that must be there. -/
def required (r : Record) (name : String) (decode : Json → Option α) : Option α :=
  (r.find? name).bind decode

/-- A field that may be null, or absent from an object. -/
def optional (r : Record) (name : String) (decode : Json → Option α) : Option (Option α) :=
  match r.find? name with
  | none => if r.asArray then none else some none
  | some .null => some none
  | some j => (decode j).map some

/-- A field that may be null or absent. -/
def nullable (r : Record) (name : String) (decode : Json → Option α) : Option (Option α) :=
  match r.find? name with
  | none => some none
  | some .null => some none
  | some j => (decode j).map some

/-- A field with a value for absence. -/
def withDefault (r : Record) (name : String) (absent : α) (decode : Json → Option α) : Option α :=
  match r.find? name with
  | none => some absent
  | some j => decode j

end Record

/-- A truth value. -/
def bool? : Json → Option Bool
  | .bool b => some b
  | _ => none

/-- A text. -/
def str? : Json → Option String
  | .str s => some s
  | _ => none

/-- An integer within bounds, both included. -/
def intWithin? (low high : Int) : Json → Option Int
  | .int n => if low ≤ n && n ≤ high then some n else none
  | _ => none

/-- A signed 64 bit integer. -/
def int64? : Json → Option Int :=
  intWithin? Double.minInt64 Double.maxInt64

/-- An unsigned 32 bit integer. -/
def uint32? (j : Json) : Option Nat :=
  (j.intWithin? 0 4294967295).map Int.toNat

/-- An unsigned 64 bit integer. -/
def uint64? (j : Json) : Option Nat :=
  (j.intWithin? 0 18446744073709551615).map Int.toNat

/-- An array, item by item. -/
def listOf? {α : Type} (decode : Json → Option α) : Json → Option (List α)
  | .arr items => items.mapM decode
  | _ => none

/-- An object as a dictionary. -/
def dictOf? {α : Type} (decode : Json → Option α) : Json → Option (Dict α)
  | .obj fields => (fields.mapM fun (field : String × Json) => (decode field.2).map (field.1, ·)).map Dict.ofList
  | _ => none

/-- A bare word: a string, or an object whose only field has that name and is null. -/
def word? : Json → Option String
  | .str s => some s
  | .obj [(k, .null)] => some k
  | _ => none

/-- One of a fixed choice of words. -/
def oneOf? {α : Type} (choices : List (String × α)) (j : Json) : Option α :=
  j.word?.bind fun w => (choices.find? (·.1 == w)).map (·.2)

end EventNet.Json
