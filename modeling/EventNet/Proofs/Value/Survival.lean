import EventNet.Proofs.Value.RoundTrip

/-!
What JSON keeps.

Values are compared as the program compares them, numbers as doubles.  By induction over an ordered value,
what is read back from its JSON equals it exactly if all its numbers are finite: a finite number comes
back up to the sign of a zero, any other is written as null, which equals no number, and the keys of a
map are written in their order and are read in it.  Bindings are written as maps are, and the values of a
marking as bindings are.
-/

namespace EventNet

namespace Value

theorem numberJson_of_not_isFinite {x : Float} (h : ¬ x.isFinite = true) : numberJson x = .null := by
  have hwhole : Double.isIntegral x = false := by
    have hx : ¬ x.toModel.unpack.isFinite = true := h
    unfold Double.isIntegral
    cases hu : x.toModel.unpack with
    | finite s m e hm => exact absurd (hu ▸ rfl) hx
    | zero s => exact absurd (hu ▸ rfl) hx
    | _ => rfl
  unfold numberJson
  rw [hwhole, Bool.false_and, if_neg Bool.false_ne_true, if_neg h]

/-- A number equals what is read back from its JSON exactly if it is finite. -/
theorem beq_ofJson_numberJson (x : Float) :
    beq (ofJson (numberJson x)) (number x) = true ↔ x.isFinite = true := by
  by_cases h : x.isFinite = true
  · refine iff_of_true ?_ h
    rw [ofJson_numberJson h]
    exact beq_of_plain_eq ((finite_plain (number x)).mpr h) (plain_plain (number x))
  · refine iff_of_false ?_ h
    rw [numberJson_of_not_isFinite h]
    exact Bool.false_ne_true

/-- Entries are read with the keys that they were written with. -/
theorem keys_fieldsOfJson_entriesToJson (entries : List (String × Value)) :
    (fieldsOfJson (entriesToJson entries)).map Prod.fst = entries.map Prod.fst := by
  induction entries with
  | nil => rfl
  | cons e rest ih => exact congrArg (List.cons e.1) ih

theorem ofList_fieldsOfJson_entriesToJson {entries : Dict Value} (h : entries.Sorted) :
    Dict.ofList (fieldsOfJson (entriesToJson entries)) = fieldsOfJson (entriesToJson entries) := by
  refine Dict.ofList_sorted (List.pairwise_map.mp ?_)
  rw [keys_fieldsOfJson_entriesToJson]
  exact List.pairwise_map.mpr h

mutual

/-- An ordered value equals what is read back from its JSON exactly if it is finite. -/
theorem beq_ofJson_toJson {v : Value} (h : v.Ordered) : beq (ofJson v.toJson) v = true ↔ v.Finite := by
  cases v with
  | number x => exact beq_ofJson_numberJson x
  | list items => exact beqItems_itemsOfJson h
  | map entries =>
      show beqEntries (Dict.ofList (fieldsOfJson (entriesToJson entries))) entries = true ↔ _
      rw [ofList_fieldsOfJson_entriesToJson h.1]
      exact beqEntries_fieldsOfJson h.2
  | null => exact iff_of_true rfl trivial
  | _ => exact iff_of_true (beq_self_eq_true _) trivial

theorem beqItems_itemsOfJson {items : List Value} (h : OrderedItems items) :
    beqItems (itemsOfJson (itemsToJson items)) items = true ↔ FiniteItems items := by
  cases items with
  | nil => exact iff_of_true rfl trivial
  | cons v rest =>
      show (beq (ofJson v.toJson) v && beqItems (itemsOfJson (itemsToJson rest)) rest) = true ↔ _
      rw [Bool.and_eq_true, beq_ofJson_toJson h.1, beqItems_itemsOfJson h.2]
      exact Iff.rfl

theorem beqEntries_fieldsOfJson {entries : List (String × Value)} (h : OrderedEntries entries) :
    beqEntries (fieldsOfJson (entriesToJson entries)) entries = true ↔ FiniteEntries entries := by
  cases entries with
  | nil => exact iff_of_true rfl trivial
  | cons e rest =>
      show (e.1 == e.1 && beq (ofJson e.2.toJson) e.2 &&
        beqEntries (fieldsOfJson (entriesToJson rest)) rest) = true ↔ _
      rw [beq_self_eq_true, Bool.true_and, Bool.and_eq_true, beq_ofJson_toJson h.1,
        beqEntries_fieldsOfJson h.2]
      exact Iff.rfl

end

/-- Maps are compared entry by entry. -/
theorem beqEntries_eq (xs ys : Dict Value) : beqEntries xs ys = (xs == ys) := by
  induction xs generalizing ys with
  | nil => cases ys <;> rfl
  | cons x xs ih =>
      cases ys with
      | nil => rfl
      | cons y ys => exact congrArg (x == y && ·) (ih ys)

end Value

/-- Bindings in key order equal what is read back from their object exactly if they are finite. -/
theorem Bindings.beq_ofJson_toJson {b : Bindings} (h : (Value.map b).Ordered) :
    (ofJson b.toJson == b) = true ↔ Value.FiniteEntries b := by
  rw [← Value.beqEntries_eq]
  exact Value.beq_ofJson_toJson h

namespace Marking

/-- Equality of contents: the same counts, and equal values. -/
def beq (m n : Marking) : Bool :=
  m.tokens == n.tokens && m.data == n.data

instance : BEq Marking := ⟨beq⟩

/-- A marking is read back, and equals what is read back exactly if it is finite. -/
theorem beq_ofJson?_toJson {m : Marking} (ho : m.Ordered) (hc : m.CountsFit) :
    ∃ n, ofJson? m.toJson = some n ∧ ((n == m) = true ↔ m.Finite) := by
  refine ⟨_, ofJson?_toJson_of_fit ho.tokens hc, ?_⟩
  show (m.tokens == m.tokens && Bindings.ofJson (Bindings.toJson m.data) == m.data) = true ↔ _
  rw [beq_self_eq_true, Bool.true_and]
  exact Bindings.beq_ofJson_toJson ⟨ho.data, ho.values⟩

end Marking

/-- Both readers find one value in every tree.  Values, bindings and markings in key order equal what is
read back from their JSON exactly if they are finite. -/
theorem survives_json (j : Json) {v : Value} {b : Bindings} {m : Marking} (hv : v.Ordered)
    (hb : (Value.map b).Ordered) (hm : m.Ordered) (hc : m.CountsFit) :
    Value.ofJson? j = some (Value.ofJson j) ∧
      (∃ w, Value.ofJson v.toJson = w ∧ Value.ofJson? v.toJson = some w ∧
        ((w == v) = true ↔ v.Finite)) ∧
      ((Bindings.ofJson b.toJson == b) = true ↔ Value.FiniteEntries b) ∧
      ∃ n, Marking.ofJson? m.toJson = some n ∧ ((n == m) = true ↔ m.Finite) :=
  ⟨Value.ofJson?_eq j, ⟨_, rfl, Value.ofJson?_eq _, Value.beq_ofJson_toJson hv⟩,
    Bindings.beq_ofJson_toJson hb, Marking.beq_ofJson?_toJson hm hc⟩

/-- What a scale shows: below zero, a half, nothing, and its unit. -/
def Value.weighed : Value :=
  .map [("shown", .list [.number (-0.0), .number 0.5, .null, .number 1e300]), ("unit", .str "kg")]

theorem Value.finite_weighed : weighed.Finite := by
  refine ⟨⟨?_, ?_, trivial, ?_, trivial⟩, trivial, trivial⟩
  · show Float.isFinite (-0.0) = true
    decide +kernel
  · show Float.isFinite 0.5 = true
    decide +kernel
  · show Float.isFinite 1e300 = true
    decide +kernel

theorem Value.ordered_weighed : weighed.Ordered :=
  ⟨List.pairwise_pair.mpr (by decide), ⟨trivial, trivial, trivial, trivial, trivial⟩, trivial, trivial⟩

theorem survives_json_weighed :
    (Value.ofJson Value.weighed.toJson == Value.weighed) = true ∧
      (Bindings.ofJson (Bindings.toJson [("scale", Value.weighed)]) == [("scale", Value.weighed)]) = true ∧
      ∃ n, Marking.ofJson? (Marking.mk [("scales", 1)] [("last", Value.weighed)]).toJson = some n ∧
        (n == Marking.mk [("scales", 1)] [("last", Value.weighed)]) = true := by
  have hordered : ∀ k, (Value.map [(k, Value.weighed)]).Ordered := fun k =>
    ⟨List.pairwise_singleton _ _, Value.ordered_weighed, trivial⟩
  have hfinite : ∀ k, Value.FiniteEntries [(k, Value.weighed)] := fun k => ⟨Value.finite_weighed, trivial⟩
  obtain ⟨-, ⟨w, rfl, -, hvalue⟩, hbindings, n, hn, hmarking⟩ :=
    survives_json .null Value.ordered_weighed (hordered "scale")
      (m := ⟨[("scales", 1)], [("last", Value.weighed)]⟩)
      ⟨List.pairwise_singleton _ _, (hordered "last").1, (hordered "last").2⟩
      (List.forall_mem_singleton.mpr (by decide))
  exact ⟨hvalue.mpr Value.finite_weighed, hbindings.mpr (hfinite "scale"), n, hn,
    hmarking.mpr (hfinite "last")⟩

end EventNet
