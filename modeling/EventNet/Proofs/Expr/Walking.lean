import EventNet.Expr.Eval
import EventNet.Proofs.Number.Exact
import Mathlib.Data.List.Forall2

/-!
Chains of accesses as walks through a value.

`x[a].b[c]` is evaluated from the inside out, and what a missing entry reads as depends on whether
something is selected from it: an empty map on the way, zero at the end.  `Value.Walks` tells the same
without stand-ins.  A walk goes from value to value by the keys, and it arrives, or it misses an entry,
or it is stuck at something that has no entries.  The stand-ins are such that a chain reads as zero from
the first miss on, however long it is, because an empty map lacks every key.
-/

namespace EventNet

/-! ### Walks -/

/-- What becomes of a walk. -/
inductive Walk where
  | reached (v : Value)
  | missed
  | stuck (fault : TypeFault)

/-- What a chain of accesses evaluates to. -/
def Walk.result : Walk → Except ExprError Value
  | .reached v => .ok v
  | .missed => .ok .zero
  | .stuck fault => .error (.type fault)

namespace Value

/-- A value that can be a key of a map, and that has no entries itself. -/
def Scalar (v : Value) : Prop :=
  v.kind = .string ∨ v.kind = .number ∨ v.kind = .bool

/-- Where one key leads from a value. -/
inductive Leads : Value → Value → Walk → Prop
  | entry {entries : Dict Value} {key w : Value} {k : String} (hkey : key.toKey? = some k)
      (hw : entries.get? k = some w) : Leads (.map entries) key (.reached w)
  | absent {entries : Dict Value} {key : Value} {k : String} (hkey : key.toKey? = some k)
      (hw : entries.get? k = none) : Leads (.map entries) key .missed
  | slot {items : List Value} {x : Float} {n : Nat} {w : Value}
      (hx : Double.value? x = some (n : ℚ)) (hw : items[n]? = some w) :
      Leads (.list items) (.number x) (.reached w)
  /-- Slots are counted from zero, so negative numbers, fractions and what is not finite name none. -/
  | outside {items : List Value} {x : Float}
      (hx : ∀ n : Nat, Double.value? x = some (n : ℚ) → items.length ≤ n) :
      Leads (.list items) (.number x) .missed
  | nil {key : Value} : Leads .null key .missed
  | notNumber {items : List Value} {key : Value} (hkey : key.kind ≠ .number) :
      Leads (.list items) key (.stuck (.listIndex key.kind))
  | noEntries {v key : Value} (hv : v.Scalar) : Leads v key (.stuck (.notIndexable v.kind))

/-- Where keys lead from a value, one after the other.  Keys that remain after a miss do not matter. -/
inductive Walks : Value → List Value → Walk → Prop
  | arrived (v : Value) : Walks v [] (.reached v)
  | onward {v w key : Value} {keys : List Value} {o : Walk} (hkey : Leads v key (.reached w))
      (hw : Walks w keys o) : Walks v (key :: keys) o
  | missed {v key : Value} {keys : List Value} (hkey : Leads v key .missed) :
      Walks v (key :: keys) .missed
  | stuck {v key : Value} {keys : List Value} {fault : TypeFault}
      (hkey : Leads v key (.stuck fault)) : Walks v (key :: keys) (.stuck fault)

theorem Scalar.exists_toKey? {v : Value} (h : v.Scalar) : ∃ k, v.toKey? = some k := by
  cases v with
  | bool b => exact ⟨_, rfl⟩
  | number x => exact ⟨_, rfl⟩
  | str s => exact ⟨_, rfl⟩
  | null => rcases h with h | h | h <;> cases h
  | list items => rcases h with h | h | h <;> cases h
  | map entries => rcases h with h | h | h <;> cases h

end Value

namespace Expr

/-! ### One access -/

/-- What a walk selects. -/
def selected : Walk → Except ExprError (Option Value)
  | .reached v => .ok (some v)
  | .missed => .ok none
  | .stuck fault => .error (.type fault)

theorem selected_injective {o o' : Walk} (h : selected o = selected o') : o = o' := by
  cases o <;> cases o' <;> cases h <;> rfl

section

variable {v key : Value} {o : Walk}

/-- Selecting goes where the key leads. -/
theorem select_of_leads (h : v.Leads key o) : select v key = selected o := by
  cases h with
  | entry hkey hw => exact (by rw [select, hkey]; exact congrArg Except.ok hw)
  | absent hkey hw => exact (by rw [select, hkey]; exact congrArg Except.ok hw)
  | @slot items x n w hx hw =>
      obtain ⟨hposition, hindex⟩ := Double.isPosition_of_value? hx
      show Except.ok (if Double.isPosition x = true then items[Double.toIndex x]? else none) = _
      rw [if_pos hposition, hindex, hw]
      rfl
  | @outside items x hx =>
      show Except.ok (if Double.isPosition x = true then items[Double.toIndex x]? else none) = _
      by_cases hposition : Double.isPosition x = true
      · rw [if_pos hposition, List.getElem?_eq_none (hx _ (Double.value?_toIndex hposition))]
        rfl
      · rw [if_neg hposition]
        rfl
  | nil => rfl
  | notNumber hkey =>
      cases key with
      | number x => exact absurd rfl hkey
      | _ => rfl
  | noEntries hv =>
      cases v with
      | bool b => rfl
      | number x => rfl
      | str s => rfl
      | null => rcases hv with h | h | h <;> cases h
      | list items => rcases hv with h | h | h <;> cases h
      | map entries => rcases hv with h | h | h <;> cases h

/-- Every scalar key leads somewhere. -/
theorem exists_leads (v : Value) (hkey : key.Scalar) : ∃ o, v.Leads key o := by
  cases v with
  | null => exact ⟨_, .nil⟩
  | bool b => exact ⟨_, .noEntries (Or.inr (Or.inr rfl))⟩
  | number x => exact ⟨_, .noEntries (Or.inr (Or.inl rfl))⟩
  | str s => exact ⟨_, .noEntries (Or.inl rfl)⟩
  | map entries =>
      obtain ⟨k, hk⟩ := hkey.exists_toKey?
      cases hw : Dict.get? entries k with
      | none => exact ⟨_, .absent hk hw⟩
      | some w => exact ⟨_, .entry hk hw⟩
  | list items =>
      cases key with
      | number x =>
          by_cases hslot : ∃ n w, Double.value? x = some ((n : Nat) : ℚ) ∧ items[n]? = some w
          · obtain ⟨n, w, hx, hw⟩ := hslot
            exact ⟨_, .slot hx hw⟩
          · refine ⟨_, .outside fun n hx => ?_⟩
            rw [← List.getElem?_eq_none_iff, Option.eq_none_iff_forall_not_mem]
            exact fun w hw => hslot ⟨n, w, hx, hw⟩
      | _ => exact ⟨_, .notNumber fun h => nomatch h⟩

end

/-! ### Walking -/

section

variable {v : Value} {keys : List Value} {o o' : Walk}

theorem exists_walks (v : Value) (h : ∀ key ∈ keys, key.Scalar) : ∃ o, v.Walks keys o := by
  induction keys generalizing v with
  | nil => exact ⟨_, .arrived v⟩
  | cons key keys ih =>
      obtain ⟨hkey, hkeys⟩ := List.forall_mem_cons.mp h
      obtain ⟨o, ho⟩ := exists_leads v hkey
      cases o with
      | reached w =>
          obtain ⟨o, hw⟩ := ih w hkeys
          exact ⟨o, .onward ho hw⟩
      | missed => exact ⟨_, .missed ho⟩
      | stuck fault => exact ⟨_, .stuck ho⟩

theorem leads_unique {key : Value} (h : v.Leads key o) (h' : v.Leads key o') : o = o' :=
  selected_injective ((select_of_leads h).symm.trans (select_of_leads h'))

theorem walks_unique (h : v.Walks keys o) (h' : v.Walks keys o') : o = o' := by
  induction h with
  | arrived v =>
      cases h'
      rfl
  | onward hkey _ ih =>
      cases h' with
      | onward hkey' hw' =>
          cases leads_unique hkey hkey'
          exact ih hw'
      | missed hkey' => cases leads_unique hkey hkey'
      | stuck hkey' => cases leads_unique hkey hkey'
  | missed hkey =>
      cases h' with
      | onward hkey' => cases leads_unique hkey hkey'
      | missed => rfl
      | stuck hkey' => cases leads_unique hkey hkey'
  | stuck hkey =>
      cases h' with
      | onward hkey' => cases leads_unique hkey hkey'
      | missed hkey' => cases leads_unique hkey hkey'
      | stuck hkey' =>
          cases leads_unique hkey hkey'
          rfl

end

/-! ### Chains -/

/-- An access to a value. -/
inductive Access where
  /-- `[key]` -/
  | key (e : Expr)
  /-- `.name` -/
  | name (s : String)

/-- An expression with an access to its value. -/
def access (target : Expr) : Access → Expr
  | .key e => .index target e
  | .name s => .field target s

/-- An expression with accesses to its value, one after the other. -/
def chain (target : Expr) (accesses : List Access) : Expr :=
  accesses.foldl access target

/-- The value that an access selects by. -/
def Access.Selects (scope : Scope) : Access → Value → Prop
  | .key e, k => e.eval scope = .ok k
  | .name s, k => k = .str s

section

variable {scope : Scope} {e : Expr} {a : Access} {accesses : List Access} {v key : Value}
  {keys : List Value} {o : Walk}

theorem evalIn_access (container : Bool) (he : evalIn scope true e = .ok v)
    (ha : a.Selects scope key) :
    evalIn scope container (access e a) = selectOrMissing container v key := by
  cases a with
  | key k =>
      show evalIn scope container (.index e k) = _
      rw [evalIn_index, he, show evalIn scope false k = .ok key from ha]
      rfl
  | name s =>
      obtain rfl : key = .str s := ha
      show evalIn scope container (.field e s) = _
      rw [evalIn_field, he]
      rfl

theorem evalIn_access_error (container : Bool) {f : ExprError}
    (he : evalIn scope true e = .error f) :
    evalIn scope container (access e a) = .error f := by
  cases a with
  | key k =>
      show evalIn scope container (.index e k) = _
      rw [evalIn_index, he]
      rfl
  | name s =>
      show evalIn scope container (.field e s) = _
      rw [evalIn_field, he]
      rfl

/-- What fails on the way fails as a whole. -/
theorem evalIn_chain_error {f : ExprError}
    (he : evalIn scope (!accesses.isEmpty) e = .error f) :
    evalIn scope false (chain e accesses) = .error f := by
  induction accesses generalizing e with
  | nil => exact he
  | cons a rest ih => exact ih (evalIn_access_error _ he)

/-- A chain evaluates to the result of the walk that its keys lead from the value at its start. -/
theorem evalIn_chain (he : evalIn scope (!accesses.isEmpty) e = .ok v)
    (hkeys : List.Forall₂ (Access.Selects scope) accesses keys) (hscalar : ∀ k ∈ keys, k.Scalar)
    (ho : v.Walks keys o) : evalIn scope false (chain e accesses) = o.result := by
  induction hkeys generalizing e v o with
  | nil =>
      cases ho
      exact he
  | @cons a key rest keys ha _ ih =>
      obtain ⟨-, hrest⟩ := List.forall_mem_cons.mp hscalar
      have haccess := evalIn_access (!rest.isEmpty) he ha
      cases ho with
      | onward hkey hw =>
          refine ih ?_ hrest hw
          rw [haccess, selectOrMissing, select_of_leads hkey]
          rfl
      | missed hkey =>
          have hmissing : evalIn scope (!rest.isEmpty) (access e a) =
              .ok (missing (!rest.isEmpty)) := by
            rw [haccess, selectOrMissing, select_of_leads hkey]
            rfl
          -- the stand-in on the way is a map that lacks the next key
          cases keys with
          | nil =>
              cases ‹List.Forall₂ _ rest []›
              exact hmissing
          | cons next keys =>
              cases ‹List.Forall₂ _ rest (next :: keys)›
              obtain ⟨k, hk⟩ := (hrest next List.mem_cons_self).exists_toKey?
              exact ih hmissing hrest (.missed (.absent hk rfl))
      | @stuck _ _ _ fault hkey =>
          have hstuck : evalIn scope (!rest.isEmpty) (access e a) = .error (.type fault) := by
            rw [haccess, selectOrMissing, select_of_leads hkey]
            rfl
          show evalIn scope false (chain (access e a) rest) = _
          exact evalIn_chain_error hstuck

end

/-- **Missing keys read as zero along every path.**  From the value of an identifier the keys of a
chain lead to exactly one end, and the chain evaluates to it: to the value that is reached, to zero from
the first miss on, or to a type error where nothing can be selected. -/
theorem eval_chain {scope : Scope} {x : String} {v : Value} {accesses : List Access}
    {keys : List Value} (hx : Dict.get? scope.bindings x = some v)
    (hkeys : List.Forall₂ (Access.Selects scope) accesses keys)
    (hscalar : ∀ k ∈ keys, k.Scalar) :
    ∃ o, (∀ o', v.Walks keys o' ↔ o' = o) ∧ (chain (.ident x) accesses).eval scope = o.result := by
  obtain ⟨o, ho⟩ := exists_walks v hscalar
  refine ⟨o, fun o' => ⟨fun h => walks_unique h ho, fun h => h ▸ ho⟩, ?_⟩
  have hident : evalIn scope (!accesses.isEmpty) (.ident x) = .ok v := by
    rw [evalIn, hx]
  exact evalIn_chain hident hkeys hscalar ho

/-- What the owners of tokens allowed others to spend. -/
def allowances : Value :=
  .map [("alice", .map [("bob", .number 5), ("carol", .null)])]

/-- `allowances[owner].zed[0]`: nothing is allowed to zed, who has no entries. -/
theorem eval_chain_allowances :
    let scope : Scope := ⟨[("allowances", allowances), ("owner", .str "alice")], []⟩
    let accesses : List Access := [.key (.ident "owner"), .name "zed", .key (.literal (.number 0))]
    let keys : List Value := [.str "alice", .str "zed", .number 0]
    Dict.get? scope.bindings "allowances" = some allowances ∧
      List.Forall₂ (Access.Selects scope) accesses keys ∧ (∀ k ∈ keys, k.Scalar) ∧
      allowances.Walks keys .missed ∧
      (chain (.ident "allowances") accesses).eval scope = .ok .zero := by
  intro scope accesses keys
  have hkeys : List.Forall₂ (Access.Selects scope) accesses keys :=
    .cons rfl (.cons rfl (.cons rfl .nil))
  have hscalar : ∀ k ∈ keys, k.Scalar := by
    simp [keys, Value.Scalar, Value.kind]
  have hmissed : allowances.Walks keys .missed :=
    .onward (.entry (k := "alice") rfl rfl) (.missed (.absent (k := "zed") rfl rfl))
  have hbound : Dict.get? scope.bindings "allowances" = some allowances := rfl
  obtain ⟨o, hwalks, heval⟩ := eval_chain hbound hkeys hscalar
  refine ⟨hbound, hkeys, hscalar, hmissed, ?_⟩
  rw [heval, ← (hwalks .missed).mp hmissed]
  rfl

end Expr

end EventNet
