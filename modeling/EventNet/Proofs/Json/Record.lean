import EventNet.Json.Shape
import Mathlib.Algebra.Order.Ring.Int

/-!
Records written as objects and read back.

An object of distinct names is read as a record in which every name has the value it was written
with, a name that was left out being absent.
-/

namespace EventNet.Json

variable {fields : List (String × Option Json)}

/-- The fields that are written. -/
private abbrev present (fields : List (String × Option Json)) : List (String × Json) :=
  fields.filterMap fun (k, j?) => j?.map (k, ·)

private theorem present_cons (k : String) (j? : Option Json) (rest : List (String × Option Json)) :
    present ((k, j?) :: rest) = j?.toList.map (k, ·) ++ present rest := by
  cases j? <;> rfl

private theorem fst_of_mem_present {e : String × Json} (h : e ∈ present fields) :
    e.1 ∈ fields.map (·.1) := by
  obtain ⟨⟨k, j?⟩, hin, heq⟩ := List.mem_filterMap.mp h
  obtain ⟨j, -, rfl⟩ := Option.map_eq_some_iff.mp heq
  exact List.mem_map_of_mem hin

private theorem filter_present_eq_nil {n : String} (h : n ∉ fields.map (·.1)) :
    (present fields).filter (·.1 == n) = [] := by
  refine List.filter_eq_nil_iff.mpr fun e he hn => h ?_
  exact (beq_iff_eq.mp hn) ▸ fst_of_mem_present he

private theorem length_filter_present (h : (fields.map (·.1)).Nodup) (n : String) :
    ((present fields).filter (·.1 == n)).length ≤ 1 := by
  induction fields with
  | nil => exact Nat.zero_le 1
  | cons f rest ih =>
      obtain ⟨k, j?⟩ := f
      rw [List.map_cons, List.nodup_cons] at h
      rw [present_cons, List.filter_append, List.length_append]
      by_cases hk : k = n
      · rw [filter_present_eq_nil (hk ▸ h.1)]
        cases j? with
        | none => exact Nat.zero_le 1
        | some j => exact List.length_filter_le (fun e : String × Json => e.1 == n) [(k, j)]
      · have hnone : ((j?.toList.map (k, ·)).filter fun e => e.1 == n) = [] := by
          cases j? <;> simp [hk]
        rw [hnone]
        exact Nat.le_trans (Nat.le_of_eq (Nat.zero_add _)) (ih h.2)

private theorem find?_present (h : (fields.map (·.1)).Nodup) (n : String) :
    ((present fields).find? (·.1 == n)).map (·.2) =
      (fields.find? (·.1 == n)).bind (·.2) := by
  induction fields with
  | nil => rfl
  | cons f rest ih =>
      obtain ⟨k, j?⟩ := f
      rw [List.map_cons, List.nodup_cons] at h
      rw [present_cons, List.find?_append, List.find?_cons]
      by_cases hk : k = n
      · have hrest : (present rest).find? (·.1 == n) = none := by
          refine List.find?_eq_none.mpr fun e he hn => h.1 ?_
          exact hk ▸ (beq_iff_eq.mp hn) ▸ fst_of_mem_present he
        rw [hrest]
        cases j? <;> simp [hk]
      · have hnone : (j?.toList.map (k, ·)).find? (fun e => e.1 == n) = none := by
          cases j? <;> simp [hk]
        have hne : (k == n) = false := beq_false_of_ne hk
        rw [hnone, Option.none_or, ih h.2, hne]

/-- What a record reads in an object of distinct names. -/
theorem record?_object (names : List String) (h : (fields.map (·.1)).Nodup) :
    (object fields).record? names =
      some ⟨fun n => (fields.find? (·.1 == n)).bind (·.2), false⟩ := by
  show (if names.any (fun n => 1 < ((present fields).filter (·.1 == n)).length) then none
    else some ⟨fun n => ((present fields).find? (·.1 == n)).map (·.2), false⟩ : Option Record) = _
  rw [if_neg]
  · simp only [find?_present h]
  · rw [List.any_eq_true]
    rintro ⟨n, -, hn⟩
    have := length_filter_present h n
    rw [decide_eq_true_eq] at hn
    omega

/-! ### What fields are read as -/

theorem int64?_int {n : Int} (h : Double.minInt64 ≤ n ∧ n ≤ Double.maxInt64) :
    int64? (.int n) = some n := by
  show (if decide (Double.minInt64 ≤ n) && decide (n ≤ Double.maxInt64) then some n else none) = _
  rw [if_pos (by simpa using h)]

theorem int64?_int_eq_none {n : Int} (h : ¬ (Double.minInt64 ≤ n ∧ n ≤ Double.maxInt64)) :
    int64? (.int n) = none := by
  show (if decide (Double.minInt64 ≤ n) && decide (n ≤ Double.maxInt64) then some n else none) = _
  rw [if_neg (by simpa using h)]

/-- An array is read item by item. -/
theorem listOf?_map {α β : Type} {decode : Json → Option α} {encode : β → Json} {back : β → α}
    {items : List β} (h : ∀ x ∈ items, decode (encode x) = some (back x)) :
    listOf? decode (.arr (items.map encode)) = some (items.map back) := by
  show (items.map encode).mapM decode = _
  induction items with
  | nil => rfl
  | cons x rest ih =>
      rw [List.map_cons, List.mapM_cons, h x List.mem_cons_self,
        ih fun y hy => h y (List.mem_cons_of_mem _ hy)]
      rfl

/-- What was read from an array was read from its items. -/
theorem exists_of_listOf? {α : Type} {decode : Json → Option α} {j : Json} {xs : List α}
    (h : listOf? decode j = some xs) : ∀ x ∈ xs, ∃ item, decode item = some x := by
  cases j with
  | arr items =>
      have hread : items.mapM decode = some xs := h
      clear h
      induction items generalizing xs with
      | nil =>
          obtain rfl : [] = xs := Option.some.inj hread
          simp
      | cons item rest ih =>
          rw [List.mapM_cons] at hread
          obtain ⟨y, hy, hrest⟩ := Option.bind_eq_some_iff.mp hread
          obtain ⟨ys, hys, hxs⟩ := Option.bind_eq_some_iff.mp hrest
          obtain rfl : y :: ys = xs := Option.some.inj hxs
          exact List.forall_mem_cons.mpr ⟨⟨item, hy⟩, ih hys⟩
  | _ => cases h

/-- A list that was left out when empty is read back. -/
theorem Record.withDefault_list {α β : Type} {r : Record} {name : String} {items : List β}
    {decode : Json → Option α} {encode : β → Json} {back : β → α}
    (hfind : r.find? name = if items.isEmpty then none else some (.arr (items.map encode)))
    (h : ∀ x ∈ items, decode (encode x) = some (back x)) :
    r.withDefault name [] (listOf? decode) = some (items.map back) := by
  unfold Record.withDefault
  rw [hfind]
  cases items with
  | nil => rfl
  | cons x rest => exact listOf?_map h

theorem Record.nullable_none {α : Type} {r : Record} {name : String} (hfind : r.find? name = none)
    (decode : Json → Option α) : r.nullable name decode = some none := by
  unfold Record.nullable
  rw [hfind]

theorem Record.nullable_null {α : Type} {r : Record} {name : String}
    (hfind : r.find? name = some .null) (decode : Json → Option α) :
    r.nullable name decode = some none := by
  unfold Record.nullable
  rw [hfind]

theorem Record.nullable_of_ne {α : Type} {r : Record} {name : String} {j : Json}
    (hfind : r.find? name = some j) (hj : j ≠ .null) (decode : Json → Option α) :
    r.nullable name decode = (decode j).map some := by
  unfold Record.nullable
  rw [hfind]
  cases j with
  | null => exact absurd rfl hj
  | _ => rfl

theorem Record.nullable_text {r : Record} {name : String} {text : Option String}
    (h : r.find? name = text.map .str) : r.nullable name str? = some text := by
  unfold Record.nullable
  rw [h]
  cases text <;> rfl

/-! ### What fits -/

theorem fits_item {items : List Json} {room : Nat} (h : (arr items).fits (room + 1) = true) :
    ∀ j ∈ items, j.fits room = true := by
  have hall : allFit room items = true := h
  clear h
  induction items with
  | nil => exact fun j hj => absurd hj List.not_mem_nil
  | cons j rest ih =>
      rw [allFit, Bool.and_eq_true] at hall
      exact List.forall_mem_cons.mpr ⟨hall.1, ih hall.2⟩

/-- What lies in an object fits in one level less. -/
theorem fits_field {fields : List (String × Option Json)} {room : Nat}
    (h : (object fields).fits (room + 1) = true) {name : String} {j : Json}
    (hj : (name, some j) ∈ fields) : j.fits room = true := by
  have hall : allFieldsFit room (present fields) = true := h
  have hmem : (name, j) ∈ present fields := List.mem_filterMap.mpr ⟨_, hj, rfl⟩
  generalize present fields = written at hall hmem
  induction written with
  | nil => exact absurd hmem List.not_mem_nil
  | cons f rest ih =>
      rw [allFieldsFit, Bool.and_eq_true] at hall
      rcases List.mem_cons.mp hmem with rfl | hmem
      · exact hall.1
      · exact ih hall.2 hmem

end EventNet.Json
