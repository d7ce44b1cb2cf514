import EventNet.Net.Marking
import EventNet.Proofs.Json.Record
import EventNet.Proofs.Value.Plain

/-!
Values written as JSON and read back.

A finite number comes back from its JSON in its plain form: a whole one of magnitude below 2^63 as the
integer it was written as, any other as the double itself.  By induction a finite ordered value, the
bindings of a payload and a marking come back in their plain forms, and whatever is read from JSON is
ordered.  The reader that records use finds the same value as the other one in every tree.  What is not
finite is written as null and does not come back.
-/

namespace EventNet.Value

/-! ### Numbers -/

private theorem numberJson_cases {x : Float} (h : x.isFinite = true) :
    numberJson x = .int (Double.toInt64 x) ∧ Double.ofInt (Double.toInt64 x) = Double.plain x ∨
      numberJson x = .double x ∧ x = Double.plain x := by
  unfold numberJson
  by_cases hwhole : (Double.isIntegral x && decide (x.abs < 9223372036854775808)) = true
  · rw [if_pos hwhole]
    rw [Bool.and_eq_true, decide_eq_true_iff] at hwhole
    exact Or.inl ⟨rfl, Double.ofInt_toInt64_plain hwhole.1 hwhole.2⟩
  · rw [if_neg hwhole, if_pos h]
    refine Or.inr ⟨rfl, (Double.plain_of_nonzero fun s hs => hwhole ?_).symm⟩
    rw [Bool.and_eq_true, decide_eq_true_iff]
    exact Double.whole_of_zero hs

theorem ofJson_numberJson {x : Float} (h : x.isFinite = true) :
    ofJson (numberJson x) = .number (Double.plain x) := by
  rcases numberJson_cases h with ⟨hj, hx⟩ | ⟨hj, hx⟩
  · rw [hj, ← hx]
    rfl
  · rw [hj, ← hx]
    rfl

/-! ### Trees -/

private theorem ofList_plainEntries {entries : Dict Value} (h : entries.Sorted) :
    Dict.ofList (plainEntries entries) = plainEntries entries :=
  Dict.ofList_sorted ((sorted_plainEntries entries).mpr h)

mutual

/-- A finite ordered value comes back from its JSON in its plain form. -/
theorem ofJson_toJson {v : Value} (hf : v.Finite) (ho : v.Ordered) : ofJson v.toJson = v.plain := by
  cases v with
  | number x => exact ofJson_numberJson hf
  | list items => exact congrArg list (itemsOfJson_itemsToJson hf ho)
  | map entries =>
      show map (Dict.ofList (fieldsOfJson (entriesToJson entries))) = map (plainEntries entries)
      rw [fieldsOfJson_entriesToJson hf ho.2, ofList_plainEntries ho.1]
  | _ => rfl

theorem itemsOfJson_itemsToJson {items : List Value} (hf : FiniteItems items)
    (ho : OrderedItems items) : itemsOfJson (itemsToJson items) = plainItems items := by
  cases items with
  | nil => rfl
  | cons v rest =>
      exact congrArg₂ List.cons (ofJson_toJson hf.1 ho.1) (itemsOfJson_itemsToJson hf.2 ho.2)

theorem fieldsOfJson_entriesToJson {entries : List (String × Value)} (hf : FiniteEntries entries)
    (ho : OrderedEntries entries) : fieldsOfJson (entriesToJson entries) = plainEntries entries := by
  cases entries with
  | nil => rfl
  | cons e rest =>
      exact congrArg₂ List.cons (congrArg (Prod.mk e.1) (ofJson_toJson hf.1 ho.1))
        (fieldsOfJson_entriesToJson hf.2 ho.2)

end

/-! ### The reader of records -/

mutual

/-- The reader that tries the kinds of values finds one for every tree, and it is the value of the tree. -/
theorem ofJson?_eq (j : Json) : ofJson? j = some (ofJson j) := by
  cases j with
  | arr items =>
      show firstKind? (.arr items) (itemsOfJson? items) none = _
      rw [itemsOfJson?_eq items]
      rfl
  | obj fields =>
      show firstKind? (.obj fields) none (fieldsOfJson? fields) = _
      rw [fieldsOfJson?_eq fields]
      rfl
  | _ => rfl

theorem itemsOfJson?_eq (items : List Json) : itemsOfJson? items = some (itemsOfJson items) := by
  cases items with
  | nil => rfl
  | cons j rest =>
      show (ofJson? j).bind (fun v => (itemsOfJson? rest).bind fun items => some (v :: items)) = _
      rw [ofJson?_eq j, itemsOfJson?_eq rest]
      rfl

theorem fieldsOfJson?_eq (fields : List (String × Json)) :
    fieldsOfJson? fields = some (fieldsOfJson fields) := by
  cases fields with
  | nil => rfl
  | cons f rest =>
      show (ofJson? f.2).bind
        (fun v => (fieldsOfJson? rest).bind fun fields => some ((f.1, v) :: fields)) = _
      rw [ofJson?_eq f.2, fieldsOfJson?_eq rest]
      rfl

end

theorem ofJson?_toJson {v : Value} (hf : v.Finite) (ho : v.Ordered) :
    ofJson? v.toJson = some v.plain := by
  rw [ofJson?_eq, ofJson_toJson hf ho]

/-- Read as a dictionary of values, an object gives the entries that it has as a value. -/
theorem dictOf?_ofJson? (fields : List (String × Json)) :
    Json.dictOf? ofJson? (.obj fields) = some (Dict.ofList (fieldsOfJson fields)) := by
  have hread : fields.mapM (fun field => (ofJson? field.2).map (field.1, ·)) =
      some (fieldsOfJson fields) := by
    induction fields with
    | nil => rfl
    | cons f rest ih =>
        rw [List.mapM_cons, ih, ofJson?_eq]
        rfl
  show Option.map Dict.ofList (fields.mapM _) = _
  rw [hread, Option.map_some]

/-! ### What is read is ordered -/

mutual

theorem ordered_ofJson (j : Json) : (ofJson j).Ordered := by
  cases j with
  | arr items => exact orderedItems_itemsOfJson items
  | obj fields =>
      refine ⟨Dict.sorted_ofList _, orderedEntries_iff.mpr fun e he => ?_⟩
      exact orderedEntries_iff.mp (orderedEntries_fieldsOfJson fields) e (Dict.mem_ofList he)
  | _ => exact trivial

theorem orderedItems_itemsOfJson (items : List Json) : OrderedItems (itemsOfJson items) := by
  cases items with
  | nil => exact trivial
  | cons j rest => exact ⟨ordered_ofJson j, orderedItems_itemsOfJson rest⟩

theorem orderedEntries_fieldsOfJson (fields : List (String × Json)) :
    OrderedEntries (fieldsOfJson fields) := by
  cases fields with
  | nil => exact trivial
  | cons f rest => exact ⟨ordered_ofJson f.2, orderedEntries_fieldsOfJson rest⟩

end

end EventNet.Value

namespace EventNet

/-! ### Payloads -/

/-- Bindings come back from their payload in their plain form. -/
theorem Bindings.ofJson_toJson {b : Bindings} (h : b.Regular) : ofJson b.toJson = b.plain := by
  show Dict.ofList (Value.fieldsOfJson (Value.entriesToJson b)) = Dict.mapValues Value.plain b
  rw [Value.fieldsOfJson_entriesToJson h.finite h.ordered, Value.plainEntries_eq,
    Dict.ofList_sorted (h.sorted.mapValues Value.plain)]

theorem Bindings.ordered_ofJson (j : Json) : Value.OrderedEntries (ofJson j) := by
  cases j with
  | obj fields => exact (Value.ordered_ofJson (.obj fields)).2
  | _ => exact trivial

/-! ### Markings -/

namespace Marking

/-- A marking with zero in place of every negative zero. -/
def plain (m : Marking) : Marking :=
  { m with data := m.data.mapValues Value.plain }

/-- All numbers are finite. -/
def Finite (m : Marking) : Prop :=
  Value.FiniteEntries m.data

/-- All maps are in key order. -/
structure Ordered (m : Marking) : Prop where
  tokens : m.tokens.Sorted
  data : m.data.Sorted
  values : Value.OrderedEntries m.data

/-- All counts are signed 64 bit integers. -/
def CountsFit (m : Marking) : Prop :=
  ∀ e ∈ m.tokens, Double.minInt64 ≤ e.2 ∧ e.2 ≤ Double.maxInt64

variable {m n : Marking}

theorem plain_plain (m : Marking) : m.plain.plain = m.plain :=
  congrArg (Marking.mk m.tokens) (Bindings.plain_plain m.data)

theorem finite_of_plain_eq (h : m.plain = n.plain) (hn : n.Finite) : m.Finite := by
  have hdata : m.data.mapValues Value.plain = n.data.mapValues Value.plain :=
    congrArg Marking.data h
  rw [← Value.plainEntries_eq, ← Value.plainEntries_eq] at hdata
  exact (Value.finiteEntries_plain m.data).mp (hdata ▸ (Value.finiteEntries_plain n.data).mpr hn)

theorem ordered_of_plain_eq (h : m.plain = n.plain) (hn : n.Ordered) : m.Ordered := by
  have hdata : m.data.mapValues Value.plain = n.data.mapValues Value.plain :=
    congrArg Marking.data h
  have htokens : m.plain.tokens = n.plain.tokens := congrArg Marking.tokens h
  rw [← Value.plainEntries_eq, ← Value.plainEntries_eq] at hdata
  refine ⟨(show m.tokens = n.tokens from htokens) ▸ hn.tokens, ?_, ?_⟩
  · exact (Value.sorted_plainEntries m.data).mp
      (hdata ▸ (Value.sorted_plainEntries n.data).mpr hn.data)
  · exact (Value.orderedEntries_plain m.data).mp
      (hdata ▸ (Value.orderedEntries_plain n.data).mpr hn.values)

/-- Read one entry of a dictionary. -/
private abbrev readEntry {α : Type} (decode : Json → Option α) (field : String × Json) :
    Option (String × α) :=
  (decode field.2).map (field.1, ·)

private theorem read_tokens {tokens : Dict Int}
    (h : ∀ e ∈ tokens, Double.minInt64 ≤ e.2 ∧ e.2 ≤ Double.maxInt64) :
    (tokens.map fun (k, n) => (k, Json.int n)).mapM (readEntry Json.int64?) = some tokens := by
  induction tokens with
  | nil => rfl
  | cons e rest ih =>
      have hfirst : readEntry Json.int64? (e.1, .int e.2) = some e := by
        show (Json.int64? (.int e.2)).map (e.1, ·) = some e
        rw [Json.int64?_int (h e List.mem_cons_self)]
        rfl
      rw [List.map_cons, List.mapM_cons, hfirst, ih fun x hx => h x (List.mem_cons_of_mem _ hx)]
      rfl

private theorem read_tokens_eq_none {tokens : Dict Int}
    (h : ¬ ∀ e ∈ tokens, Double.minInt64 ≤ e.2 ∧ e.2 ≤ Double.maxInt64) :
    (tokens.map fun (k, n) => (k, Json.int n)).mapM (readEntry Json.int64?) = none := by
  induction tokens with
  | nil => simp at h
  | cons e rest ih =>
      rw [List.map_cons, List.mapM_cons]
      by_cases he : Double.minInt64 ≤ e.2 ∧ e.2 ≤ Double.maxInt64
      · rw [ih fun hrest => h (List.forall_mem_cons.mpr ⟨he, hrest⟩)]
        cases readEntry Json.int64? (e.1, .int e.2) <;> rfl
      · have hfirst : readEntry Json.int64? (e.1, .int e.2) = none := by
          show (Json.int64? (.int e.2)).map (e.1, ·) = none
          rw [Json.int64?_int_eq_none he]
          rfl
        rw [hfirst]
        rfl

private theorem ofJson?_toJson_eq (m : Marking) :
    ofJson? m.toJson = (Json.dictOf? Json.int64? (.obj (m.tokens.map fun (k, n) => (k, .int n)))).bind
      fun tokens => (Json.dictOf? Value.ofJson? (.obj (Value.entriesToJson m.data))).bind
        fun data => some ⟨tokens, data⟩ := by
  have hobject : m.toJson = .object [("data", some (.obj (Value.entriesToJson m.data))),
      ("tokens", some (.obj (m.tokens.map fun (k, n) => (k, .int n))))] := rfl
  unfold ofJson?
  rw [hobject, Json.record?_object _ (by simp)]
  rfl

/-- A marking is read back if its counts fit: the counts as they are, and the values as a payload is. -/
theorem ofJson?_toJson_of_fit (ht : m.tokens.Sorted) (hc : m.CountsFit) :
    ofJson? m.toJson = some ⟨m.tokens, Bindings.ofJson (Bindings.toJson m.data)⟩ := by
  have htokens : Json.dictOf? Json.int64? (.obj (m.tokens.map fun (k, n) => (k, .int n))) =
      some m.tokens := by
    show ((m.tokens.map fun (k, n) => (k, Json.int n)).mapM (readEntry Json.int64?)).map _ = _
    rw [read_tokens hc, Option.map_some, Dict.ofList_sorted ht]
  rw [ofJson?_toJson_eq, htokens, Value.dictOf?_ofJson?]
  rfl

/-- A finite ordered marking comes back from its JSON in its plain form, if its counts fit. -/
theorem ofJson?_toJson (hf : m.Finite) (ho : m.Ordered) (hc : m.CountsFit) :
    ofJson? m.toJson = some m.plain := by
  rw [ofJson?_toJson_of_fit ho.tokens hc, Bindings.ofJson_toJson ⟨ho.data, hf, ho.values⟩]
  rfl

/-- A marking whose counts do not fit is not read back at all. -/
theorem ofJson?_toJson_eq_none (hc : ¬ m.CountsFit) : ofJson? m.toJson = none := by
  have htokens : Json.dictOf? Json.int64? (.obj (m.tokens.map fun (k, n) => (k, .int n))) = none := by
    show ((m.tokens.map fun (k, n) => (k, Json.int n)).mapM (readEntry Json.int64?)).map _ = _
    rw [read_tokens_eq_none hc]
    rfl
  rw [ofJson?_toJson_eq, htokens]
  rfl

end Marking

end EventNet
