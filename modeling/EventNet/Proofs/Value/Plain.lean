import EventNet.Proofs.Dict
import EventNet.Proofs.Number.Zeros
import EventNet.Value.Text

/-!
Values up to the signs of zeros.

`plain` puts zero in place of negative zero wherever it occurs in a value, so two values are equal up
to the signs of zeros when their plain forms are one.  `Finite` and `Ordered` say that all numbers in
a value are finite and that all its maps are in key order; the plain form changes neither.
-/

namespace EventNet.Value

mutual

/-- A value with zero in place of every negative zero. -/
def plain : Value → Value
  | .number x => .number (Double.plain x)
  | .list items => .list (plainItems items)
  | .map entries => .map (plainEntries entries)
  | v => v

/-- `plain` for every item. -/
def plainItems : List Value → List Value
  | [] => []
  | v :: rest => plain v :: plainItems rest

/-- `plain` for every entry. -/
def plainEntries : List (String × Value) → List (String × Value)
  | [] => []
  | (k, v) :: rest => (k, plain v) :: plainEntries rest

end

mutual

/-- All numbers are finite. -/
def Finite : Value → Prop
  | .number x => x.isFinite = true
  | .list items => FiniteItems items
  | .map entries => FiniteEntries entries
  | _ => True

/-- `Finite` for every item. -/
def FiniteItems : List Value → Prop
  | [] => True
  | v :: rest => Finite v ∧ FiniteItems rest

/-- `Finite` for every entry. -/
def FiniteEntries : List (String × Value) → Prop
  | [] => True
  | (_, v) :: rest => Finite v ∧ FiniteEntries rest

end

mutual

/-- All maps are in key order. -/
def Ordered : Value → Prop
  | .list items => OrderedItems items
  | .map entries => Dict.Sorted entries ∧ OrderedEntries entries
  | _ => True

/-- `Ordered` for every item. -/
def OrderedItems : List Value → Prop
  | [] => True
  | v :: rest => Ordered v ∧ OrderedItems rest

/-- `Ordered` for every entry. -/
def OrderedEntries : List (String × Value) → Prop
  | [] => True
  | (_, v) :: rest => Ordered v ∧ OrderedEntries rest

end

/-! ### Entry by entry -/

theorem plainEntries_eq (entries : Dict Value) : plainEntries entries = entries.mapValues plain := by
  induction entries with
  | nil => rfl
  | cons e rest ih =>
      show (e.1, plain e.2) :: plainEntries rest = _
      rw [ih]
      rfl

theorem plainItems_eq (items : List Value) : plainItems items = items.map plain := by
  induction items with
  | nil => rfl
  | cons v rest ih =>
      show plain v :: plainItems rest = _
      rw [ih]
      rfl

theorem plain_map (entries : Dict Value) : plain (.map entries) = .map (entries.mapValues plain) := by
  rw [← plainEntries_eq]
  rfl

theorem orderedEntries_iff {entries : Dict Value} :
    OrderedEntries entries ↔ ∀ e ∈ entries, e.2.Ordered := by
  induction entries with
  | nil => exact iff_of_true trivial (by simp)
  | cons e rest ih =>
      rw [List.forall_mem_cons, ← ih]
      exact Iff.rfl

theorem OrderedEntries.insert {entries : Dict Value} (h : OrderedEntries entries) (k : String)
    {v : Value} (hv : v.Ordered) : OrderedEntries (entries.insert k v) := by
  refine orderedEntries_iff.mpr fun e he => ?_
  rcases Dict.mem_insert he with rfl | he
  · exact hv
  · exact orderedEntries_iff.mp h e he

theorem OrderedEntries.get? {entries : Dict Value} (h : OrderedEntries entries) {k : String}
    {v : Value} (hv : entries.get? k = some v) : v.Ordered :=
  orderedEntries_iff.mp h (k, v) (Dict.mem_of_get? hv)

/-! ### What the plain form keeps -/

mutual

theorem plain_plain (v : Value) : v.plain.plain = v.plain := by
  cases v with
  | number x => exact congrArg number (Double.plain_plain x)
  | list items => exact congrArg list (plainItems_plainItems items)
  | map entries => exact congrArg map (plainEntries_plainEntries entries)
  | _ => rfl

theorem plainItems_plainItems (items : List Value) :
    plainItems (plainItems items) = plainItems items := by
  cases items with
  | nil => rfl
  | cons v rest => exact congrArg₂ List.cons (plain_plain v) (plainItems_plainItems rest)

theorem plainEntries_plainEntries (entries : List (String × Value)) :
    plainEntries (plainEntries entries) = plainEntries entries := by
  cases entries with
  | nil => rfl
  | cons e rest =>
      exact congrArg₂ List.cons (congrArg (Prod.mk e.1) (plain_plain e.2))
        (plainEntries_plainEntries rest)

end

mutual

theorem finite_plain (v : Value) : v.plain.Finite ↔ v.Finite := by
  cases v with
  | number x =>
      show (Double.plain x).isFinite = true ↔ x.isFinite = true
      rw [Double.isFinite_plain]
  | list items => exact finiteItems_plain items
  | map entries => exact finiteEntries_plain entries
  | _ => exact Iff.rfl

theorem finiteItems_plain (items : List Value) :
    FiniteItems (plainItems items) ↔ FiniteItems items := by
  cases items with
  | nil => exact Iff.rfl
  | cons v rest => exact and_congr (finite_plain v) (finiteItems_plain rest)

theorem finiteEntries_plain (entries : List (String × Value)) :
    FiniteEntries (plainEntries entries) ↔ FiniteEntries entries := by
  cases entries with
  | nil => exact Iff.rfl
  | cons e rest => exact and_congr (finite_plain e.2) (finiteEntries_plain rest)

end

theorem sorted_plainEntries (entries : Dict Value) :
    Dict.Sorted (plainEntries entries) ↔ entries.Sorted := by
  rw [plainEntries_eq]
  exact List.pairwise_map

mutual

theorem ordered_plain (v : Value) : v.plain.Ordered ↔ v.Ordered := by
  cases v with
  | list items => exact orderedItems_plain items
  | map entries => exact and_congr (sorted_plainEntries entries) (orderedEntries_plain entries)
  | _ => exact Iff.rfl

theorem orderedItems_plain (items : List Value) :
    OrderedItems (plainItems items) ↔ OrderedItems items := by
  cases items with
  | nil => exact Iff.rfl
  | cons v rest => exact and_congr (ordered_plain v) (orderedItems_plain rest)

theorem orderedEntries_plain (entries : List (String × Value)) :
    OrderedEntries (plainEntries entries) ↔ OrderedEntries entries := by
  cases entries with
  | nil => exact Iff.rfl
  | cons e rest => exact and_congr (ordered_plain e.2) (orderedEntries_plain rest)

end

/-! ### What cannot tell a value from its plain form -/

theorem kind_plain (v : Value) : v.plain.kind = v.kind := by
  cases v <;> rfl

theorem numberText_plain (x : Float) : numberText (Double.plain x) = numberText x := by
  unfold numberText
  rw [Double.isIntegral_plain, Double.toInt64_plain]
  by_cases hwhole : Double.isIntegral x = true
  · rw [if_pos hwhole, if_pos hwhole]
  · rw [if_neg hwhole, if_neg hwhole,
      Double.plain_of_nonzero fun s hs => hwhole (Double.whole_of_zero hs).1]

theorem toKey?_plain (v : Value) : v.plain.toKey? = v.toKey? := by
  cases v with
  | number x => exact congrArg some (numberText_plain x)
  | _ => rfl

theorem number?_plain (v : Value) : v.plain.number? = v.number?.map Double.plain := by
  cases v <;> rfl

mutual

theorem beq_plain (v w : Value) : beq v.plain w.plain = beq v w := by
  cases v <;> cases w <;> first
    | rfl
    | exact Double.beq_plain _ _
    | exact beqItems_plain _ _
    | exact beqEntries_plain _ _

theorem beqItems_plain (vs ws : List Value) :
    beqItems (plainItems vs) (plainItems ws) = beqItems vs ws := by
  cases vs <;> cases ws <;> first
    | rfl
    | exact congrArg₂ and (beq_plain _ _) (beqItems_plain _ _)

theorem beqEntries_plain (vs ws : List (String × Value)) :
    beqEntries (plainEntries vs) (plainEntries ws) = beqEntries vs ws := by
  cases vs <;> cases ws <;> first
    | rfl
    | exact congrArg₂ and (congrArg (and _) (beq_plain _ _)) (beqEntries_plain _ _)

end

mutual

theorem beq_self {v : Value} (h : v.Finite) : beq v v = true := by
  cases v with
  | number x => exact Double.beq_self_of_isFinite x h
  | list items => exact beqItems_self h
  | map entries => exact beqEntries_self h
  | null => rfl
  | _ => exact beq_self_eq_true _

theorem beqItems_self {items : List Value} (h : FiniteItems items) :
    beqItems items items = true := by
  cases items with
  | nil => rfl
  | cons v rest => exact Bool.and_eq_true_iff.mpr ⟨beq_self h.1, beqItems_self h.2⟩

theorem beqEntries_self {entries : List (String × Value)} (h : FiniteEntries entries) :
    beqEntries entries entries = true := by
  cases entries with
  | nil => rfl
  | cons e rest =>
      have hentry : (e.1 == e.1 && beq e.2 e.2) = true :=
        Bool.and_eq_true_iff.mpr ⟨beq_self_eq_true e.1, beq_self h.1⟩
      exact Bool.and_eq_true_iff.mpr ⟨hentry, beqEntries_self h.2⟩

end

/-- Finite values with one plain form are equal. -/
theorem beq_of_plain_eq {v w : Value} (hv : v.Finite) (h : v.plain = w.plain) : (v == w) = true := by
  show beq v w = true
  rw [← beq_plain, ← h]
  exact beq_self ((finite_plain v).mpr hv)

end EventNet.Value

/-! ### Bindings -/

namespace EventNet.Bindings

/-- Bindings with zero in place of every negative zero. -/
def plain (b : Bindings) : Bindings :=
  Dict.mapValues Value.plain b

/-- Bindings in key order whose values are finite and ordered. -/
structure Regular (b : Bindings) : Prop where
  sorted : Dict.Sorted b
  finite : Value.FiniteEntries b
  ordered : Value.OrderedEntries b

theorem plain_plain (b : Bindings) : b.plain.plain = b.plain := by
  unfold plain
  rw [← Value.plainEntries_eq, ← Value.plainEntries_eq, Value.plainEntries_plainEntries]

theorem get?_plain (b : Bindings) (name : String) :
    Dict.get? b.plain name = (Dict.get? b name).map Value.plain :=
  Dict.get?_mapValues Value.plain b name

end EventNet.Bindings
