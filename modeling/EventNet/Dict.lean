/-!
Dictionaries with text keys, kept as entries in strictly increasing key order.

Two dictionaries in that order are equal exactly when they hold the same entries, so equality of
values, the order of printed keys and the order of iteration all follow from the one representation.
`Sorted` states the order; every operation that builds a dictionary keeps it.
-/

namespace EventNet

/-- Entries by key, in strictly increasing key order. -/
abbrev Dict (α : Type) := List (String × α)

namespace Dict

variable {α β : Type}

/-- The keys strictly increase. -/
def Sorted (d : Dict α) : Prop :=
  d.Pairwise (·.1 < ·.1)

/-- The entry of a key. -/
def get? : Dict α → String → Option α
  | [], _ => none
  | (k, v) :: rest, key => if k = key then some v else get? rest key

/-- Whether a key has an entry. -/
def contains (d : Dict α) (key : String) : Bool :=
  (d.get? key).isSome

/-- Give a key an entry, in place of the one it had. -/
def insert : Dict α → String → α → Dict α
  | [], key, a => [(key, a)]
  | (k, v) :: rest, key, a =>
    if key < k then (key, a) :: (k, v) :: rest
    else if k = key then (key, a) :: rest
    else (k, v) :: insert rest key a

/-- Take a key's entry away. -/
def erase : Dict α → String → Dict α
  | [], _ => []
  | (k, v) :: rest, key => if k = key then rest else (k, v) :: erase rest key

/-- Insert entries one after the other; of two for one key the later stays. -/
def insertAll (d : Dict α) (entries : List (String × α)) : Dict α :=
  entries.foldl (fun d e => d.insert e.1 e.2) d

/-- The dictionary of a list of entries; of two for one key the later stays. -/
def ofList (entries : List (String × α)) : Dict α :=
  insertAll [] entries

/-- The keys in order. -/
def keys (d : Dict α) : List String :=
  d.map (·.1)

/-- The values in key order. -/
def values (d : Dict α) : List α :=
  d.map (·.2)

/-- Change every value. -/
def mapValues (f : α → β) (d : Dict α) : Dict β :=
  d.map fun (k, v) => (k, f v)

/-! ### Reading -/

@[simp] theorem get?_nil (key : String) : get? ([] : Dict α) key = none :=
  rfl

theorem get?_cons (k : String) (v : α) (rest : Dict α) (key : String) :
    get? ((k, v) :: rest) key = if k = key then some v else get? rest key :=
  rfl

theorem get?_insert (d : Dict α) (k : String) (v : α) (key : String) :
    (d.insert k v).get? key = if k = key then some v else d.get? key := by
  induction d with
  | nil => rfl
  | cons e rest ih =>
      obtain ⟨l, w⟩ := e
      simp only [insert]
      by_cases hlt : k < l
      · rw [if_pos hlt, get?_cons]
      rw [if_neg hlt]
      by_cases hl : l = k
      · rw [if_pos hl, get?_cons, get?_cons, hl]
        by_cases hk : k = key <;> simp [hk]
      · rw [if_neg hl, get?_cons, get?_cons, ih]
        by_cases hk : k = key
        · rw [if_neg (fun h => hl (h.trans hk.symm)), if_pos hk, if_pos hk]
        · simp [hk]

end Dict

end EventNet
