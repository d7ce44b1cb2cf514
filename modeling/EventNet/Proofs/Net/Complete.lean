import EventNet.Proofs.Net.Balance
import Std.Data.String.ToInt

/-!
Markings with an entry for each state.

A schema gives each token state a count and each data state a value, and calls neither add entries nor
take them away.  So all markings that are reached have entries for the same states, and their token keys
tell their counts apart: a count is written without a comma, and the name in front of it is the same in
both keys.
-/

namespace EventNet

namespace Dict

/-- A dictionary with entries for the keys that pass a test and no others. -/
structure Over {α : Type} (d : Dict α) (p : String → Bool) : Prop where
  sorted : d.Sorted
  contains : ∀ key, d.contains key = p key

variable {α : Type} {d e : Dict α} {p : String → Bool} {k key : String}

theorem contains_insert (d : Dict α) (k : String) (v : α) (key : String) :
    (d.insert k v).contains key = true ↔ k = key ∨ d.contains key = true := by
  unfold Dict.contains
  by_cases hk : k = key
  · subst hk
    simp [get?_insert_self]
  · simp [get?_insert_of_ne d v hk, hk]

theorem Over.insert (h : d.Over p) (hk : p k = true) (v : α) : (d.insert k v).Over p := by
  refine ⟨h.sorted.insert k v, fun key => ?_⟩
  rw [Bool.eq_iff_iff, contains_insert, h.contains]
  constructor
  · rintro (rfl | hkey)
    · exact hk
    · exact hkey
  · exact Or.inr

theorem Over.get?_isSome (h : d.Over p) (hk : p k = true) : ∃ v, d.get? k = some v :=
  Option.isSome_iff_exists.mp ((h.contains k).trans hk)

theorem Over.get?_eq_none (h : d.Over p) (hk : p k = false) : d.get? k = none :=
  Option.isNone_iff_eq_none.mp (by simpa [Dict.contains] using (h.contains k).trans hk)

/-- The keys of a dictionary without its values. -/
theorem keys_mapValues {β : Type} (f : α → β) (d : Dict α) : (d.mapValues f).keys = d.keys := by
  unfold keys mapValues
  rw [List.map_map]
  rfl

theorem Over.keys_eq (hd : d.Over p) (he : e.Over p) : d.keys = e.keys := by
  have hunits : d.mapValues (fun _ => ()) = e.mapValues fun _ => () := by
    refine (hd.sorted.mapValues _).ext (he.sorted.mapValues _) fun key => ?_
    rw [get?_mapValues, get?_mapValues]
    have hsame := (hd.contains key).trans (he.contains key).symm
    unfold Dict.contains at hsame
    cases hdk : d.get? key <;> cases hek : e.get? key <;> simp_all
  rw [← keys_mapValues (fun _ => ()) d, hunits, keys_mapValues]

end Dict

/-! ### Entries for the states of a schema -/

/-- Whether an id is that of a data state. -/
def Schema.isDataState (s : Schema) (id : String) : Bool :=
  (s.state? id).any fun st => !st.isToken

/-- A marking with a count for each token state, a value for each data state and nothing else. -/
structure Marking.Complete (m : Marking) (s : Schema) : Prop where
  tokens : m.tokens.Over s.isTokenState
  data : m.data.Over s.isDataState

section

variable {s : Schema} {m after : Marking} {action id : String} {bindings : Option Bindings}
  {st : StateDecl}

theorem Schema.isTokenState_eq (h : s.state? id = some st) : s.isTokenState id = st.isToken := by
  simp [isTokenState, h]

theorem Schema.isDataState_eq (h : s.state? id = some st) : s.isDataState id = !st.isToken := by
  simp [isDataState, h]

namespace Marking

/-- After some declarations there are entries for what is declared. -/
theorem contains_declarations (states : List StateDecl) (m : Marking) (id : String) :
    ((states.foldl declare m).tokens.contains id = true ↔
      m.tokens.contains id = true ∨ ∃ st ∈ states, st.id = id ∧ st.isToken = true) ∧
    ((states.foldl declare m).data.contains id = true ↔
      m.data.contains id = true ∨ ∃ st ∈ states, st.id = id ∧ st.isToken = false) := by
  induction states generalizing m with
  | nil => simp
  | cons first rest ih =>
      rw [List.foldl_cons, (ih _).1, (ih _).2]
      unfold declare
      by_cases ht : first.isToken = true
      · simp [ht, Dict.contains_insert, or_assoc, or_left_comm]
      · simp [ht, Dict.contains_insert, or_assoc, or_left_comm]

/-- A schema starts with an entry for each state. -/
theorem complete_initial (s : Schema) : (initial s).Complete s := by
  have hdeclared := fun id => contains_declarations s.states .empty id
  have hsorted : (initial s).tokens.Sorted ∧ (initial s).data.Sorted :=
    initial_induction (P := fun m => m.tokens.Sorted ∧ m.data.Sorted)
      ⟨Dict.sorted_nil, Dict.sorted_nil⟩ (fun _ _ _ _ hm => ⟨hm.1.insert _ _, hm.2⟩)
      (fun _ _ _ _ hm => ⟨hm.1, hm.2.insert _ _⟩)
  refine ⟨⟨hsorted.1, fun id => ?_⟩, ⟨hsorted.2, fun id => ?_⟩⟩
  · rw [Bool.eq_iff_iff, Schema.isTokenState_iff, initial_eq, (hdeclared id).1]
    constructor
    · rintro (hnone | ⟨st, hst, rfl, ht⟩)
      · cases hnone
      · exact ⟨st, Schema.state?_of_mem hst, ht⟩
    · rintro ⟨st, hst, ht⟩
      exact Or.inr ⟨st, (Schema.state?_some hst).1, (Schema.state?_some hst).2, ht⟩
  · rw [Bool.eq_iff_iff, initial_eq, (hdeclared id).2, Schema.isDataState, Option.any_eq_true]
    constructor
    · rintro (hnone | ⟨st, hst, rfl, ht⟩)
      · cases hnone
      · exact ⟨st, Schema.state?_of_mem hst, by simp [ht]⟩
    · rintro ⟨st, hst, ht⟩
      exact Or.inr ⟨st, (Schema.state?_some hst).1, (Schema.state?_some hst).2, by simpa using ht⟩

end Marking

/-- Actions neither add counts nor take them away. -/
theorem Schema.over_moveTokens {tokens : Dict Int} (h : tokens.Over s.isTokenState) (action : String) :
    (s.moveTokens action tokens).Over s.isTokenState :=
  moveTokens_induction (P := fun t => t.Over s.isTokenState) h
    (fun _ _ htoken _ _ ht => ht.insert htoken _) (fun _ _ htoken _ ht => ht.insert htoken _)

namespace Net

theorem over_of_did {a : Arc} {moved : Option Int} {add : Bool} (hm : m.data.Over s.isDataState)
    (h : a.Did s id moved add bindings m after) : after.data.Over s.isDataState := by
  cases h with
  | changed st b v hstate hdata =>
      have hstated : s.isDataState st.id = true := by
        rw [(Schema.state?_some hstate).2, Schema.isDataState_eq hstate, hdata]
        rfl
      exact hm.insert hstated v
  | _ => exact hm

theorem complete_of_move (hm : m.Complete s)
    (h : (move s action bindings).run m = (.ok (), after)) : after.Complete s := by
  refine ⟨?_, ?_⟩
  · rw [tokens_of_move h]
    exact Schema.over_moveTokens hm.tokens action
  · exact move_invariant (P := fun m => m.data.Over s.isDataState)
      (fun _ _ _ hm h => over_of_did hm (did_of_takeInput h))
      (fun _ _ _ hm h => over_of_did hm (did_of_giveOutput h))
      hm.data h

end Net

theorem Marking.Complete.call (hm : m.Complete s) (c : Call) : (c.after s m).Complete s := by
  rcases c.cases s m with ⟨act, -, -, hfires⟩ | ⟨-, hsame⟩
  · exact Net.complete_of_move hm hfires.moved
  · rwa [hsame]

/-- Every marking that is reached has exactly the entries of the schema. -/
theorem Schema.Reached.complete (h : s.Reached m) : m.Complete s := by
  induction h with
  | start => exact Marking.complete_initial s
  | call c _ ih => exact ih.call c

end

/-! ### Keys of counts -/

namespace Marking

/-- A count is written with digits and a sign. -/
theorem digit_or_minus_of_mem_toString {n : Int} {c : Char} (h : c ∈ (toString n).toList) :
    c.isDigit = true ∨ c = '-' := by
  have hnat : ∀ k : Nat, ∀ c ∈ k.repr.toList, c.isDigit = true := by
    intro k c hmem
    rw [Nat.repr_eq_ofList_toDigits, String.toList_ofList] at hmem
    exact Nat.isDigit_of_mem_toDigits (by decide) (by decide) hmem
  rw [Int.toString_eq_repr, Int.repr_eq_if] at h
  split at h
  · exact Or.inl (hnat _ c h)
  · rw [String.toList_append] at h
    rcases List.mem_append.mp h with hsign | hdigits
    · exact Or.inr (List.mem_singleton.mp hsign)
    · exact Or.inl (hnat _ c hdigits)

theorem comma_notMem_toString (n : Int) : ',' ∉ (toString n).toList :=
  fun h => absurd (digit_or_minus_of_mem_toString h) (by decide)

theorem equals_notMem_toString (n : Int) : '=' ∉ (toString n).toList :=
  fun h => absurd (digit_or_minus_of_mem_toString h) (by decide)

/-- A count in front of a comma ends there. -/
theorem takeWhile_count (n : Int) (rest : List Char) :
    ((toString n).toList ++ ',' :: rest).takeWhile (· ≠ ',') = (toString n).toList := by
  have hpart : ∀ c ∈ (toString n).toList, decide (c ≠ ',') = true := by
    intro c hc
    rw [decide_eq_true_eq]
    rintro rfl
    exact comma_notMem_toString n hc
  rw [List.takeWhile_append_of_pos hpart]
  simp

/-- Counts in front of a comma are told apart. -/
theorem count_comma_inj {m n : Int} {rest rest' : List Char}
    (h : (toString m).toList ++ ',' :: rest = (toString n).toList ++ ',' :: rest') :
    m = n ∧ rest = rest' := by
  have htexts := congrArg (List.takeWhile (· ≠ ',')) h
  rw [takeWhile_count, takeWhile_count, String.toList_inj, Int.toString_eq_repr, Int.toString_eq_repr,
    Int.repr_inj] at htexts
  subst htexts
  exact ⟨rfl, (List.cons.inj (List.append_cancel_left h)).2⟩

/-- All counts, each with a comma behind it. -/
def keyText (tokens : Dict Int) : List Char :=
  tokens.flatMap fun e => (keyPart e).toList ++ [',']

theorem keyText_cons (id : String) (n : Int) (rest : Dict Int) :
    keyText ((id, n) :: rest) = id.toList ++ '=' :: ((toString n).toList ++ ',' :: keyText rest) := by
  simp [keyText, keyPart, String.toList_append]

theorem tokenKey_comma {m : Marking} (h : m.tokens ≠ []) :
    m.tokenKey.toList ++ [','] = keyText m.tokens := by
  obtain ⟨tokens, data⟩ := m
  show (",".intercalate (tokens.map keyPart)).toList ++ [','] = keyText tokens
  have hne : tokens ≠ [] := h
  clear h
  induction tokens with
  | nil => exact absurd rfl hne
  | cons e rest ih =>
      cases rest with
      | nil => simp [keyText]
      | cons e' rest =>
          have hrest := ih (List.cons_ne_nil e' rest)
          rw [List.map_cons, List.map_cons, String.intercalate_cons_cons, ← List.map_cons,
            String.toList_append, List.append_assoc, hrest]
          simp [keyText, String.toList_append]

/-- Counts of the same states are told by their text. -/
theorem keyText_inj {d e : Dict Int} (hkeys : d.keys = e.keys) (h : keyText d = keyText e) : d = e := by
  induction d generalizing e with
  | nil => exact (List.map_eq_nil_iff.mp hkeys.symm).symm
  | cons x rest ih =>
      obtain ⟨id, n⟩ := x
      cases e with
      | nil => cases hkeys
      | cons y rest' =>
          obtain ⟨id', n'⟩ := y
          obtain ⟨hid, hrestKeys⟩ := List.cons.inj hkeys
          obtain rfl : id = id' := hid
          rw [keyText_cons, keyText_cons] at h
          obtain ⟨rfl, hrest⟩ := count_comma_inj (List.cons.inj (List.append_cancel_left h)).2
          rw [ih hrestKeys hrest]

/-- **The token key tells counts apart** that are of the same states. -/
theorem tokenKey_inj {m n : Marking} (hkeys : m.tokens.keys = n.tokens.keys)
    (h : m.tokenKey = n.tokenKey) : m.tokens = n.tokens := by
  by_cases hm : m.tokens = []
  · rw [hm] at hkeys ⊢
    exact (List.map_eq_nil_iff.mp hkeys.symm).symm
  · have hn : n.tokens ≠ [] := by
      intro hnil
      rw [hnil] at hkeys
      exact hm (List.map_eq_nil_iff.mp hkeys)
    refine keyText_inj hkeys ?_
    rw [← tokenKey_comma hm, ← tokenKey_comma hn, h]

end Marking

end EventNet
