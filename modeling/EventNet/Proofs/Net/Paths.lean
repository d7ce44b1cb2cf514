import EventNet.Net.Firing
import EventNet.Proofs.Dict

/-!
Entries of maps by path.

A map state holds maps within maps, and an arc with keys adds to the number at the end of a path through
them.  `Value.lookup?` looks along such a path.  What `Value.addAt` does is said in its terms: the entry at
the end of the path becomes a number, which is larger by what is added than the one it was read as, and
every entry that the path neither leads through nor leads to stays as it was, present or absent.
-/

namespace EventNet

namespace Value

/-- The entry at the end of a path, none if a level is missing or is no map. -/
def lookup? : (path : List String) → Value → Option Value
  | [], v => some v
  | k :: rest, v => (v.map?.bind (Dict.get? · k)).bind (lookup? rest)

/-- The number at the end of a path, zero where there is none. -/
def numberAt (path : List String) (v : Value) : Float :=
  ((v.lookup? path).bind number?).getD 0

/-- The entries of a level, of which nil has none. -/
def level? : Value → Option (Dict Value)
  | .null => some []
  | .map entries => some entries
  | _ => none

/-- What a level is taken to hold under a key when more keys follow. -/
def next (entries : Dict Value) (k : String) (rest : List String) : Value :=
  (entries.get? k).getD (if rest.isEmpty then .zero else .emptyMap)

/-- A path that leads through levels only. -/
def Open : (path : List String) → Value → Prop
  | [], _ => True
  | k :: rest, v => ∃ entries, v.level? = some entries ∧ Open rest (next entries k rest)

variable {v new : Value} {entries : Dict Value} {k : String} {rest path : List String}

theorem eq_number {v : Value} {x : Float} (h : v.number? = some x) : v = .number x := by
  cases v with
  | number y => exact congrArg number (Option.some.inj h)
  | _ => cases h

theorem eq_map {v : Value} {entries : Dict Value} (h : v.map? = some entries) :
    v = .map entries := by
  cases v with
  | map es => exact congrArg map (Option.some.inj h)
  | _ => cases h

theorem lookup?_level (h : v.level? = some entries) :
    v.lookup? (k :: rest) = (entries.get? k).bind (lookup? rest) := by
  cases v with
  | null =>
      obtain rfl := Option.some.inj h
      rfl
  | map es =>
      obtain rfl := Option.some.inj h
      rfl
  | _ => cases h

/-- What stands in for a missing level holds nothing, or zero. -/
theorem lookup?_next (entries : Dict Value) (k : String) (rest path : List String) :
    (next entries k rest).lookup? path = (entries.get? k).bind (lookup? path) ∨
      entries.get? k = none ∧ (path = [] ∨ (next entries k rest).lookup? path = none) := by
  unfold next
  cases hk : entries.get? k with
  | some w => exact Or.inl rfl
  | none =>
      refine Or.inr ⟨rfl, ?_⟩
      cases path with
      | nil => exact Or.inl rfl
      | cons l path => cases rest <;> exact Or.inr rfl

/-! ### What is added -/

variable {state : String} {delta : Float} {arrivedBy : Option String} {keys : List String}

theorem addAt_nil_ok (h : addAt state delta arrivedBy [] v = .ok new) :
    (v = .null ∨ ∃ x, v = .number x) ∧ new = .number (v.numberAt [] + delta) := by
  cases v with
  | null => exact ⟨Or.inl rfl, (Except.ok.inj h).symm⟩
  | number x => exact ⟨Or.inr ⟨x, rfl⟩, (Except.ok.inj h).symm⟩
  | _ => cases h

theorem addAt_cons_ok (h : addAt state delta arrivedBy (k :: rest) v = .ok new) :
    ∃ entries w, v.level? = some entries ∧
      addAt state delta (some k) rest (next entries k rest) = .ok w ∧
      new = .map (entries.insert k w) := by
  have hlevel : ∀ entries, v.level? = some entries →
      ((addAt state delta (some k) rest (next entries k rest)).map fun w =>
        map (entries.insert k w)) = .ok new →
      ∃ entries w, v.level? = some entries ∧
        addAt state delta (some k) rest (next entries k rest) = .ok w ∧
        new = .map (entries.insert k w) := by
    intro entries hv h
    cases hw : addAt state delta (some k) rest (next entries k rest) with
    | error f =>
        rw [hw] at h
        cases h
    | ok w =>
        rw [hw] at h
        exact ⟨entries, w, hv, hw, (Except.ok.inj h).symm⟩
  cases v with
  | null => exact hlevel [] rfl h
  | map entries => exact hlevel entries rfl h
  | _ => cases h

/-- Where something was added, the path leads through levels, before and after. -/
theorem open_of_addAt (h : addAt state delta arrivedBy keys v = .ok new) :
    v.Open keys ∧ new.Open keys := by
  induction keys generalizing arrivedBy v new with
  | nil => exact ⟨trivial, trivial⟩
  | cons k rest ih =>
      obtain ⟨entries, w, hlevel, hw, rfl⟩ := addAt_cons_ok h
      obtain ⟨hbefore, hafter⟩ := ih hw
      refine ⟨⟨entries, hlevel, hbefore⟩, entries.insert k w, rfl, ?_⟩
      unfold next
      rw [Dict.get?_insert_self]
      exact hafter

/-- The number that is found at the end of the path goes up by what is added.  It counts as zero where
the entry is nil or missing, and nothing else can be there. -/
theorem lookup?_addAt (h : addAt state delta arrivedBy keys v = .ok new) :
    (v.lookup? keys = none ∨ v.lookup? keys = some .null ∨ ∃ x, v.lookup? keys = some (.number x)) ∧
      new.lookup? keys = some (.number (v.numberAt keys + delta)) := by
  induction keys generalizing arrivedBy v new with
  | nil =>
      obtain ⟨hheld, rfl⟩ := addAt_nil_ok h
      refine ⟨Or.inr ?_, rfl⟩
      rcases hheld with rfl | ⟨x, rfl⟩
      · exact Or.inl rfl
      · exact Or.inr ⟨x, rfl⟩
  | cons k rest ih =>
      obtain ⟨entries, w, hlevel, hw, rfl⟩ := addAt_cons_ok h
      obtain ⟨hheld, hnew⟩ := ih hw
      have hafter : (map (entries.insert k w)).lookup? (k :: rest) = w.lookup? rest := by
        rw [lookup?_level rfl, Dict.get?_insert_self]
        rfl
      rw [hafter, hnew]
      unfold numberAt
      rw [lookup?_level hlevel]
      rcases lookup?_next entries k rest rest with hsame | ⟨hmissing, hnone⟩
      · rw [hsame] at hheld ⊢
        exact ⟨hheld, rfl⟩
      · -- what stands in for the missing level is read as zero as well
        have hzero : (((next entries k rest).lookup? rest).bind number?).getD 0 = 0 := by
          rcases hnone with rfl | hnone
          · unfold next
            rw [hmissing]
            rfl
          · rw [hnone]
            rfl
        rw [hmissing, hzero]
        exact ⟨Or.inl rfl, rfl⟩

/-- Entries that the path neither leads through nor leads to stay as they are. -/
theorem lookup?_addAt_of_apart (h : addAt state delta arrivedBy keys v = .ok new)
    (hpath : ¬ path <+: keys) (hkeys : ¬ keys <+: path) : new.lookup? path = v.lookup? path := by
  induction keys generalizing arrivedBy v new path with
  | nil => exact absurd List.nil_prefix hkeys
  | cons k rest ih =>
      cases path with
      | nil => exact absurd List.nil_prefix hpath
      | cons l path =>
          obtain ⟨entries, w, hlevel, hw, rfl⟩ := addAt_cons_ok h
          rw [lookup?_level hlevel, lookup?_level rfl]
          by_cases hl : k = l
          · subst hl
            rw [List.prefix_cons_inj] at hpath hkeys
            have hbelow := ih hw hpath hkeys
            rw [Dict.get?_insert_self]
            show w.lookup? path = _
            rw [hbelow]
            rcases lookup?_next entries k rest path with hsame | ⟨hmissing, hnone⟩
            · exact hsame
            · have hne : path ≠ [] := by
                rintro rfl
                exact hpath List.nil_prefix
              rw [hmissing, hnone.resolve_left hne]
              rfl
          · rw [Dict.get?_insert_of_ne entries w hl]

end Value

/-- The entry of a state at a path, none where the state has no value. -/
def Marking.lookup? (m : Marking) (state : String) (path : List String) : Option Value :=
  (m.value? state).bind (Value.lookup? path)

end EventNet
