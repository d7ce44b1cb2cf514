import EventNet.Dict
import Mathlib.Algebra.Order.Ring.Int

/-!
What a dictionary answers after it was changed.

`get?_insert` holds of any list of entries.  In the other direction, from the entries to what is
read, the order matters: only in a sorted dictionary does every entry answer to its key, and two
sorted dictionaries that answer alike are one.
-/

namespace EventNet.Dict

variable {α β : Type}

/-! ### Reading -/

theorem mem_of_get? {d : Dict α} {key : String} {v : α} (h : d.get? key = some v) :
    (key, v) ∈ d := by
  induction d with
  | nil => simp at h
  | cons e rest ih =>
      obtain ⟨k, w⟩ := e
      rw [get?_cons] at h
      by_cases hk : k = key
      · rw [if_pos hk] at h
        simp [hk, Option.some.inj h]
      · rw [if_neg hk] at h
        exact List.mem_cons_of_mem _ (ih h)

/-- What holds of all values and of a default holds of what is read. -/
theorem getD_of_forall {P : α → Prop} {d : Dict α} (h : ∀ e ∈ d, P e.2) {default : α}
    (hdefault : P default) (key : String) : P ((d.get? key).getD default) := by
  cases hv : d.get? key with
  | none => exact hdefault
  | some v => exact h _ (mem_of_get? hv)

theorem get?_eq_none_of_notMem {d : Dict α} {key : String} (h : ∀ e ∈ d, e.1 ≠ key) :
    d.get? key = none := by
  induction d with
  | nil => rfl
  | cons e rest ih =>
      obtain ⟨k, w⟩ := e
      rw [get?_cons, if_neg (h (k, w) (by simp))]
      exact ih fun e he => h e (List.mem_cons_of_mem _ he)

theorem get?_mapValues (f : α → β) (d : Dict α) (key : String) :
    (d.mapValues f).get? key = (d.get? key).map f := by
  induction d with
  | nil => rfl
  | cons e rest ih =>
      obtain ⟨k, v⟩ := e
      show (if k = key then some (f v) else (mapValues f rest).get? key) = _
      rw [get?_cons, ih]
      by_cases hk : k = key <;> simp [hk]

/-! ### Inserting -/

theorem get?_insert_self (d : Dict α) (k : String) (v : α) : (d.insert k v).get? k = some v := by
  rw [get?_insert, if_pos rfl]

theorem get?_insert_of_ne (d : Dict α) {k key : String} (v : α) (h : k ≠ key) :
    (d.insert k v).get? key = d.get? key := by
  rw [get?_insert, if_neg h]

theorem mem_insert {d : Dict α} {k : String} {v : α} {e : String × α} (h : e ∈ d.insert k v) :
    e = (k, v) ∨ e ∈ d := by
  induction d with
  | nil => exact Or.inl (List.mem_singleton.mp h)
  | cons x rest ih =>
      obtain ⟨l, w⟩ := x
      simp only [insert] at h
      split at h
      · exact List.mem_cons.mp h
      split at h
      · rcases List.mem_cons.mp h with h | h
        · exact Or.inl h
        · exact Or.inr (List.mem_cons_of_mem _ h)
      · rcases List.mem_cons.mp h with h | h
        · exact Or.inr (h ▸ List.mem_cons_self)
        · exact (ih h).imp_right (List.mem_cons_of_mem _)

/-- What holds of all values and of a new one holds after it is inserted. -/
theorem forall_mem_insert {P : α → Prop} {d : Dict α} (h : ∀ e ∈ d, P e.2) (k : String) {v : α}
    (hv : P v) : ∀ e ∈ d.insert k v, P e.2 := by
  intro e he
  rcases mem_insert he with rfl | he
  · exact hv
  · exact h e he

theorem mapValues_insert (f : α → β) (d : Dict α) (k : String) (v : α) :
    (d.insert k v).mapValues f = (d.mapValues f).insert k (f v) := by
  induction d with
  | nil => rfl
  | cons e rest ih =>
      obtain ⟨l, w⟩ := e
      show mapValues f (if k < l then (k, v) :: (l, w) :: rest
        else if l = k then (k, v) :: rest else (l, w) :: insert rest k v) =
        if k < l then (k, f v) :: (l, f w) :: mapValues f rest
        else if l = k then (k, f v) :: mapValues f rest
        else (l, f w) :: (mapValues f rest).insert k (f v)
      split
      · rfl
      split
      · rfl
      · rw [← ih]
        rfl

/-! ### Erasing -/

theorem mem_erase {d : Dict α} {k : String} {e : String × α} (h : e ∈ d.erase k) : e ∈ d := by
  induction d with
  | nil => exact h
  | cons x rest ih =>
      obtain ⟨l, w⟩ := x
      simp only [erase] at h
      split at h
      · exact List.mem_cons_of_mem _ h
      · rcases List.mem_cons.mp h with h | h
        · exact h ▸ List.mem_cons_self
        · exact List.mem_cons_of_mem _ (ih h)

theorem get?_erase_of_ne (d : Dict α) {k key : String} (h : k ≠ key) :
    (d.erase k).get? key = d.get? key := by
  induction d with
  | nil => rfl
  | cons e rest ih =>
      obtain ⟨l, w⟩ := e
      simp only [erase]
      by_cases hl : l = k
      · rw [if_pos hl, get?_cons, if_neg (hl ▸ h)]
      · rw [if_neg hl, get?_cons, get?_cons, ih]

theorem mapValues_erase (f : α → β) (d : Dict α) (k : String) :
    (d.erase k).mapValues f = (d.mapValues f).erase k := by
  induction d with
  | nil => rfl
  | cons e rest ih =>
      obtain ⟨l, w⟩ := e
      show mapValues f (if l = k then rest else (l, w) :: erase rest k) =
        if l = k then mapValues f rest else (l, f w) :: (mapValues f rest).erase k
      split
      · rfl
      · rw [← ih]
        rfl

theorem contains_mapValues (f : α → β) (d : Dict α) (k : String) :
    (d.mapValues f).contains k = d.contains k := by
  unfold contains
  rw [get?_mapValues]
  cases d.get? k <;> rfl

/-! ### The order of the keys -/

theorem sorted_nil : Sorted ([] : Dict α) :=
  List.Pairwise.nil

theorem sorted_cons {k : String} {v : α} {rest : Dict α} :
    Sorted ((k, v) :: rest) ↔ (∀ e ∈ rest, k < e.1) ∧ Sorted rest :=
  List.pairwise_cons

private theorem lt_of_not_lt_of_ne {a b : String} (h : ¬ a < b) (hne : b ≠ a) : b < a := by
  rcases Decidable.em (b < a) with hlt | hge
  · exact hlt
  · exact absurd (String.le_antisymm h hge) hne

theorem Sorted.insert {d : Dict α} (h : d.Sorted) (k : String) (v : α) : (d.insert k v).Sorted := by
  induction d with
  | nil => exact List.pairwise_singleton _ _
  | cons e rest ih =>
      obtain ⟨l, w⟩ := e
      obtain ⟨hbelow, hrest⟩ := sorted_cons.mp h
      simp only [Dict.insert]
      by_cases hlt : k < l
      · rw [if_pos hlt]
        refine sorted_cons.mpr ⟨fun e he => ?_, h⟩
        rcases List.mem_cons.mp he with rfl | he
        · exact hlt
        · exact String.lt_trans hlt (hbelow e he)
      rw [if_neg hlt]
      by_cases hl : l = k
      · rw [if_pos hl]
        exact sorted_cons.mpr ⟨hl ▸ hbelow, hrest⟩
      · rw [if_neg hl]
        refine sorted_cons.mpr ⟨fun e he => ?_, ih hrest⟩
        rcases mem_insert he with rfl | he
        · exact lt_of_not_lt_of_ne hlt hl
        · exact hbelow e he

theorem Sorted.erase {d : Dict α} (h : d.Sorted) (k : String) : (d.erase k).Sorted := by
  induction d with
  | nil => exact h
  | cons e rest ih =>
      obtain ⟨l, w⟩ := e
      obtain ⟨hbelow, hrest⟩ := sorted_cons.mp h
      simp only [Dict.erase]
      split
      · exact hrest
      · exact sorted_cons.mpr ⟨fun e he => hbelow e (mem_erase he), ih hrest⟩

/-- A sorted dictionary has no second entry for a key that was taken out. -/
theorem Sorted.get?_erase_self {d : Dict α} (h : d.Sorted) (k : String) :
    (d.erase k).get? k = none := by
  induction d with
  | nil => rfl
  | cons e rest ih =>
      obtain ⟨l, w⟩ := e
      obtain ⟨hbelow, hrest⟩ := sorted_cons.mp h
      simp only [Dict.erase]
      by_cases hl : l = k
      · rw [if_pos hl]
        exact get?_eq_none_of_notMem fun e he => hl ▸ (String.ne_of_lt (hbelow e he)).symm
      · rw [if_neg hl, get?_cons, if_neg hl, ih hrest]

theorem Sorted.insertAll {d : Dict α} (h : d.Sorted) (entries : List (String × α)) :
    (d.insertAll entries).Sorted := by
  induction entries generalizing d with
  | nil => exact h
  | cons e rest ih => exact ih (h.insert e.1 e.2)

theorem sorted_ofList (entries : List (String × α)) : (ofList entries).Sorted :=
  sorted_nil.insertAll entries

theorem Sorted.mapValues {d : Dict α} (h : d.Sorted) (f : α → β) : (d.mapValues f).Sorted :=
  List.pairwise_map.mpr h

theorem get?_of_mem {d : Dict α} (h : d.Sorted) {key : String} {v : α} (hv : (key, v) ∈ d) :
    d.get? key = some v := by
  induction d with
  | nil => simp at hv
  | cons e rest ih =>
      obtain ⟨k, w⟩ := e
      obtain ⟨hbelow, hrest⟩ := sorted_cons.mp h
      rw [get?_cons]
      rcases List.mem_cons.mp hv with heq | hv
      · obtain ⟨rfl, rfl⟩ := Prod.mk.inj heq
        exact if_pos rfl
      · rw [if_neg (String.ne_of_lt (hbelow _ hv)), ih hrest hv]

/-- Two sorted dictionaries that answer alike are one. -/
theorem Sorted.ext {d e : Dict α} (hd : d.Sorted) (he : e.Sorted)
    (h : ∀ key, d.get? key = e.get? key) : d = e := by
  induction d generalizing e with
  | nil =>
      cases e with
      | nil => rfl
      | cons x rest =>
          have := h x.1
          rw [get?_cons, if_pos rfl] at this
          simp at this
  | cons x rest ih =>
      obtain ⟨k, v⟩ := x
      obtain ⟨hbelow, hrest⟩ := sorted_cons.mp hd
      cases e with
      | nil =>
          have := h k
          rw [get?_cons, if_pos rfl] at this
          simp at this
      | cons y tail =>
          obtain ⟨l, w⟩ := y
          obtain ⟨lbelow, htail⟩ := sorted_cons.mp he
          -- the first keys agree, for the least key of each is a key of the other
          have hmem : (k, v) ∈ (l, w) :: tail :=
            mem_of_get? (by rw [← h k, get?_cons, if_pos rfl])
          have lmem : (l, w) ∈ (k, v) :: rest :=
            mem_of_get? (by rw [h l, get?_cons, if_pos rfl])
          have hfirst : (k, v) = (l, w) := by
            rcases List.mem_cons.mp hmem with heq | hin
            · exact heq
            rcases List.mem_cons.mp lmem with heq | lin
            · exact heq.symm
            · exact absurd (hbelow _ lin) (String.lt_asymm (lbelow _ hin))
          obtain ⟨rfl, rfl⟩ := Prod.mk.inj hfirst
          rw [ih hrest htail fun key => ?_]
          by_cases hk : k = key
          · rw [← hk, get?_eq_none_of_notMem fun e he => (String.ne_of_lt (hbelow e he)).symm,
              get?_eq_none_of_notMem fun e he => (String.ne_of_lt (lbelow e he)).symm]
          · have := h key
            rwa [get?_cons, get?_cons, if_neg hk, if_neg hk] at this

theorem mem_insertAll {entries : List (String × α)} {d : Dict α} {e : String × α}
    (h : e ∈ d.insertAll entries) : e ∈ d ∨ e ∈ entries := by
  induction entries generalizing d with
  | nil => exact Or.inl h
  | cons x rest ih =>
      rcases ih h with h | h
      · rcases mem_insert h with rfl | h
        · exact Or.inr List.mem_cons_self
        · exact Or.inl h
      · exact Or.inr (List.mem_cons_of_mem _ h)

theorem mem_ofList {entries : List (String × α)} {e : String × α} (h : e ∈ ofList entries) :
    e ∈ entries :=
  (mem_insertAll h).resolve_left List.not_mem_nil

theorem get?_insertAll_isSome (d : Dict α) (entries : List (String × α)) {key : String}
    (h : (∃ v, d.get? key = some v) ∨ ∃ v, (key, v) ∈ entries) :
    ∃ v, (d.insertAll entries).get? key = some v := by
  induction entries generalizing d with
  | nil => exact h.resolve_right fun ⟨v, hv⟩ => List.not_mem_nil hv
  | cons e rest ih =>
      refine ih (d.insert e.1 e.2) ?_
      rw [get?_insert]
      by_cases hk : e.1 = key
      · exact Or.inl ⟨e.2, if_pos hk⟩
      rw [if_neg hk]
      refine h.imp_right fun ⟨v, hv⟩ => ⟨v, (List.mem_cons.mp hv).resolve_left fun heq => ?_⟩
      exact hk (by rw [← heq])

theorem get?_ofList_isSome {entries : List (String × α)} {key : String} {v : α}
    (h : (key, v) ∈ entries) : ∃ w, (ofList entries).get? key = some w :=
  get?_insertAll_isSome [] entries (Or.inr ⟨v, h⟩)

/-- Where keys come once, an inserted entry stands in place of the one before. -/
theorem get?_insertAll {entries : Dict α} (h : entries.Sorted) (d : Dict α) (key : String) :
    (d.insertAll entries).get? key = (entries.get? key).or (d.get? key) := by
  induction entries generalizing d with
  | nil => rfl
  | cons e rest ih =>
      obtain ⟨k, v⟩ := e
      obtain ⟨hbelow, hrest⟩ := sorted_cons.mp h
      have htail := ih hrest (d.insert k v)
      refine htail.trans ?_
      rw [get?_insert, get?_cons]
      by_cases hk : k = key
      · have hnone : get? rest key = none := by
          refine get?_eq_none_of_notMem fun e he heq => ?_
          have hlt := hbelow e he
          rw [heq, hk] at hlt
          exact String.lt_irrefl key hlt
        rw [if_pos hk, if_pos hk, hnone]
        rfl
      · rw [if_neg hk, if_neg hk]

/-- What is inserted stands in place of whatever was there. -/
theorem get?_insertAll_congr {d e : Dict α} (entries : List (String × α)) {key : String}
    (h : d.get? key = e.get? key ∨ ∃ v, (key, v) ∈ entries) :
    (d.insertAll entries).get? key = (e.insertAll entries).get? key := by
  induction entries generalizing d e with
  | nil => exact h.resolve_right fun ⟨v, hv⟩ => List.not_mem_nil hv
  | cons x rest ih =>
      refine ih (d := d.insert x.1 x.2) (e := e.insert x.1 x.2) ?_
      rw [get?_insert, get?_insert]
      by_cases hk : x.1 = key
      · rw [if_pos hk, if_pos hk]
        exact Or.inl rfl
      rw [if_neg hk, if_neg hk]
      refine h.imp_right fun ⟨v, hv⟩ => ⟨v, (List.mem_cons.mp hv).resolve_left fun heq => ?_⟩
      exact hk (by rw [← heq])

/-! ### Entries in order -/

theorem insert_last {d : Dict α} {k : String} (h : ∀ e ∈ d, e.1 < k) (v : α) :
    d.insert k v = d ++ [(k, v)] := by
  induction d with
  | nil => rfl
  | cons e rest ih =>
      obtain ⟨l, w⟩ := e
      have hl : l < k := h (l, w) List.mem_cons_self
      show (if k < l then _ else if l = k then _ else _) = _
      rw [if_neg (String.lt_asymm hl), if_neg (String.ne_of_lt hl),
        ih fun e he => h e (List.mem_cons_of_mem _ he)]
      rfl

theorem insertAll_sorted {d e : Dict α} (he : e.Sorted) (h : ∀ x ∈ d, ∀ y ∈ e, x.1 < y.1) :
    d.insertAll e = d ++ e := by
  induction e generalizing d with
  | nil => exact (List.append_nil d).symm
  | cons y rest ih =>
      obtain ⟨hbelow, hrest⟩ := sorted_cons.mp he
      show (d.insert y.1 y.2).insertAll rest = _
      rw [insert_last (fun x hx => h x hx y List.mem_cons_self), ih hrest, List.append_assoc]
      · rfl
      · intro x hx z hz
        rcases List.mem_append.mp hx with hx | hx
        · exact h x hx z (List.mem_cons_of_mem _ hz)
        · rw [List.mem_singleton.mp hx]
          exact hbelow z hz

/-- The entries of a sorted dictionary make that dictionary. -/
theorem ofList_sorted {d : Dict α} (h : d.Sorted) : ofList d = d := by
  unfold ofList
  rw [insertAll_sorted h (by simp), List.nil_append]

theorem mapValues_insertAll (f : α → β) (d : Dict α) (entries : List (String × α)) :
    (d.insertAll entries).mapValues f = (d.mapValues f).insertAll (mapValues f entries) := by
  induction entries generalizing d with
  | nil => rfl
  | cons e rest ih =>
      show ((d.insert e.1 e.2).insertAll rest).mapValues f = _
      rw [ih, mapValues_insert]
      rfl

end EventNet.Dict
