import EventNet.Expr.Compiled
import EventNet.Proofs.Dict

/-!
Expressions read the identifiers they list, and nothing else of the bindings.

An expression is evaluated in two bindings, where the second keeps what the first binds among some
names.  A result is `Carried` from one to the other: it stays as it is, or it was that one of the names
is unknown and the second bindings know it.  Evaluation asks for one result after the other and stops
at the first that fails, so it is enough that identifiers are carried and that a sequence of results is
(`Carried.bind`); every operator is then a sequence.  What an expression does not list never matters,
and what it does not find is among what it lists.
-/

namespace EventNet

/-! ### Results that name no identifier -/

/-- The result is not that an identifier is unknown. -/
def Expr.Nameless {α : Type} (r : Except ExprError α) : Prop :=
  ∀ x, r ≠ .error (.unknownIdentifier x)

/-- A function that never answers that an identifier is unknown. -/
def Function.Nameless (f : Function) : Prop :=
  ∀ args, Expr.Nameless (f args)

/-- Functions none of which answers that an identifier is unknown. -/
def Registry.Nameless (r : Registry) : Prop :=
  ∀ entry ∈ r, Function.Nameless entry.2

namespace Expr

theorem nameless_ok {α : Type} (a : α) : Nameless (.ok a) :=
  fun _ h => nomatch h

theorem Nameless.map {α β : Type} {r : Except ExprError α} (h : Nameless r) (f : α → β) :
    Nameless (r.map f) := by
  intro x hx
  cases r with
  | error e => exact h x (congrArg Except.error (Except.error.inj hx))
  | ok a => cases hx

theorem nameless_applyUnary (op : UnaryOp) (v : Value) : Nameless (applyUnary op v) := by
  intro x h
  unfold applyUnary at h
  split at h <;> cases h

theorem nameless_arithmetic (op : BinaryOp) (x y : Float) : Nameless (arithmetic op x y) := by
  intro name h
  unfold arithmetic at h
  split at h
  · cases h
  · cases h
  · cases h
  all_goals split at h <;> cases h

theorem nameless_applyBinary (op : BinaryOp) (l r : Value) : Nameless (applyBinary op l r) := by
  intro x h
  unfold applyBinary at h
  split at h
  · cases h
  · cases h
  all_goals
    split at h
    all_goals first
      | cases h
      | exact (nameless_arithmetic _ _ _).map _ x h

theorem nameless_logicalOperand (op : LogicalOp) (v : Value) : Nameless (logicalOperand op v) := by
  intro x h
  unfold logicalOperand at h
  split at h <;> cases h

theorem nameless_selectOrMissing (container : Bool) (target key : Value) :
    Nameless (selectOrMissing container target key) := by
  refine Nameless.map (fun x h => ?_) _
  unfold select at h
  split at h
  · split at h <;> cases h
  · split at h <;> cases h
  · cases h
  · cases h

end Expr

namespace Function

open EventNet.Expr

theorem nameless_numbers (name : String) (values : List Value) : Expr.Nameless (numbers name values) := by
  induction values with
  | nil => exact nameless_ok _
  | cons v rest ih =>
      cases v with
      | number x => exact ih.map _
      | _ => exact fun _ h => nomatch h

theorem nameless_extremum (name : String) (pick : Float → Float → Float) :
    (extremum name pick).Nameless := by
  intro args x h
  unfold extremum at h
  dsimp only at h
  split at h
  · rename_i e he
    cases h
    exact nameless_numbers name _ x he
  · cases h
  · cases h

theorem nameless_len : len.Nameless := by
  intro args x h
  unfold len at h
  split at h <;> cases h

theorem nameless_abs : abs.Nameless := by
  intro args x h
  unfold abs at h
  split at h <;> cases h

theorem nameless_contains : contains.Nameless := by
  intro args x h
  unfold contains at h
  split at h
  · cases h
  · split at h <;> cases h
  all_goals cases h

theorem nameless_oneString (name : String) (args : List Value) :
    Expr.Nameless (oneString name args) := by
  intro x h
  unfold oneString at h
  split at h <;> cases h

theorem nameless_twoStrings (name : String) (args : List Value) :
    Expr.Nameless (twoStrings name args) := by
  intro x h
  unfold twoStrings at h
  split at h <;> cases h

end Function

namespace Registry

/-- The functions that every expression can call name no identifier. -/
theorem nameless_builtins : builtins.Nameless := by
  intro entry hentry
  simp only [builtins, List.mem_cons, List.not_mem_nil, or_false] at hentry
  rcases hentry with rfl | rfl | rfl | rfl | rfl | rfl | rfl
  · exact Function.nameless_abs
  · exact Function.nameless_contains
  · exact fun args => (Function.nameless_twoStrings "endsWith" args).map _
  · exact Function.nameless_len
  · exact Function.nameless_extremum "max" Double.greater
  · exact Function.nameless_extremum "min" Double.lesser
  · exact fun args => (Function.nameless_twoStrings "startsWith" args).map _

/-- Those that constraints can call over a marking do not either. -/
theorem nameless_aggregates (tokens : Dict Int) : (aggregates tokens).Nameless := by
  intro entry hentry
  simp only [aggregates, List.mem_cons, List.not_mem_nil, or_false] at hentry
  rcases hentry with rfl | rfl | rfl | rfl | rfl
  all_goals exact fun args => (Function.nameless_oneString _ args).map _

theorem Nameless.function? {functions : Registry} (h : functions.Nameless) {b : Bindings}
    {name : String} {f : Function} (hf : Expr.Scope.function? ⟨b, functions⟩ name = some f) :
    f.Nameless := by
  rcases Option.or_eq_some_iff.mp hf with hf | ⟨-, hf⟩
  · exact h (name, f) (Dict.mem_of_get? hf)
  · exact nameless_builtins (name, f) (Dict.mem_of_get? hf)

end Registry

/-! ### Results in two bindings -/

namespace Bindings

/-- What the first bindings bind among some names, the second bind alike. -/
def Keeps (names : List String) (b c : Bindings) : Prop :=
  ∀ x ∈ names, ∀ v, Dict.get? b x = some v → Dict.get? c x = some v

end Bindings

namespace Expr

/-- What becomes of a result over some names from one bindings to others.  Only that a name is unknown
can change, and only where the others know it. -/
inductive Carried (names : List String) (b c : Bindings) {α : Type} :
    Except ExprError α → Except ExprError α → Prop
  | ok (a : α) : Carried names b c (.ok a) (.ok a)
  | failed {e : ExprError} (he : ∀ x, e ≠ .unknownIdentifier x) :
      Carried names b c (.error e) (.error e)
  | unknown {x : String} (hx : x ∈ names) (hb : Dict.get? b x = none) :
      Carried names b c (.error (.unknownIdentifier x)) (.error (.unknownIdentifier x))
  | gained {x : String} (hx : x ∈ names) (hb : Dict.get? b x = none)
      (hc : Dict.get? c x ≠ none) (r : Except ExprError α) :
      Carried names b c (.error (.unknownIdentifier x)) r

section

variable {names : List String} {b c : Bindings} {functions : Registry} {α β : Type}

theorem Nameless.carried {r : Except ExprError α} (h : Nameless r) : Carried names b c r r := by
  cases r with
  | ok a => exact .ok a
  | error e => exact .failed fun x hx => h x (congrArg Except.error hx)

/-- Results that are asked for one after the other are carried if each of them is. -/
theorem Carried.bind {r r' : Except ExprError α} {f g : α → Except ExprError β}
    (h : Carried names b c r r') (hf : ∀ a, Carried names b c (f a) (g a)) :
    Carried names b c (r.bind f) (r'.bind g) := by
  cases h with
  | ok a => exact hf a
  | failed he => exact .failed he
  | unknown hx hb => exact .unknown hx hb
  | gained hx hb hc => exact .gained hx hb hc _

theorem Carried.map {r r' : Except ExprError α} (h : Carried names b c r r') (f : α → β) :
    Carried names b c (r.map f) (r'.map f) := by
  cases h with
  | ok a => exact .ok (f a)
  | failed he => exact .failed he
  | unknown hx hb => exact .unknown hx hb
  | gained hx hb hc => exact .gained hx hb hc _

theorem carried_ident (h : Bindings.Keeps names b c) {x : String} (hx : x ∈ names) (k : Bool) :
    Carried names b c (evalIn ⟨b, functions⟩ k (.ident x)) (evalIn ⟨c, functions⟩ k (.ident x)) := by
  unfold evalIn
  cases hb : Dict.get? b x with
  | some v =>
      rw [h x hx v hb]
      exact .ok v
  | none =>
      cases hc : Dict.get? c x with
      | none => exact .unknown hx hb
      | some v => exact .gained hx hb (by simp [hc]) _

/-- An operand of `&&` or `||`. -/
theorem carried_operand {r r' : Except ExprError Value} (h : Carried names b c r r')
    (op : LogicalOp) : Carried names b c (r.bind (logicalOperand op)) (r'.bind (logicalOperand op)) :=
  h.bind fun v => (nameless_logicalOperand op v).carried

mutual

/-- **Every result of an expression is carried** from bindings to others that keep what they bind
among the names it lists. -/
theorem evalIn_carried (hf : functions.Nameless) (h : Bindings.Keeps names b c) (container : Bool)
    (e : Expr) (he : ∀ x ∈ e.occurrences, x ∈ names) :
    Carried names b c (evalIn ⟨b, functions⟩ container e) (evalIn ⟨c, functions⟩ container e) := by
  cases e with
  | literal v => exact .ok v
  | ident x => exact carried_ident h (he x List.mem_cons_self) container
  | unary op operand =>
      rw [evalIn_unary, evalIn_unary]
      exact (evalIn_carried hf h false operand he).bind fun v => (nameless_applyUnary op v).carried
  | binary op left right =>
      obtain ⟨hleft, hright⟩ := List.forall_mem_append.mp he
      rw [evalIn_binary, evalIn_binary]
      refine (evalIn_carried hf h false left hleft).bind fun l => ?_
      exact (evalIn_carried hf h false right hright).bind fun r =>
        (nameless_applyBinary op l r).carried
  | logical op left right =>
      obtain ⟨hleft, hright⟩ := List.forall_mem_append.mp he
      rw [evalIn_logical, evalIn_logical]
      refine (carried_operand (evalIn_carried hf h false left hleft) op).bind fun l => ?_
      -- the right operand is asked for only if the left one leaves the result open
      split
      · exact .ok _
      · exact (carried_operand (evalIn_carried hf h false right hright) op).map _
  | index target key =>
      obtain ⟨htarget, hkey⟩ := List.forall_mem_append.mp he
      rw [evalIn_index, evalIn_index]
      refine (evalIn_carried hf h true target htarget).bind fun t => ?_
      exact (evalIn_carried hf h false key hkey).bind fun k =>
        (nameless_selectOrMissing container t k).carried
  | field target name =>
      rw [evalIn_field, evalIn_field]
      exact (evalIn_carried hf h true target he).bind fun t =>
        (nameless_selectOrMissing container t (.str name)).carried
  | call function args =>
      rw [evalIn_call, evalIn_call]
      refine (evalArgs_carried hf h args he).bind fun values => ?_
      have hsame : Scope.function? ⟨b, functions⟩ function =
        Scope.function? ⟨c, functions⟩ function := rfl
      rw [hsame]
      cases hfound : Scope.function? ⟨c, functions⟩ function with
      | none => exact .failed fun _ h => nomatch h
      | some f => exact (hf.function? hfound values).carried

theorem evalArgs_carried (hf : functions.Nameless) (h : Bindings.Keeps names b c)
    (args : List Expr) (he : ∀ x ∈ occurrencesAll args, x ∈ names) :
    Carried names b c (evalArgs ⟨b, functions⟩ args) (evalArgs ⟨c, functions⟩ args) := by
  cases args with
  | nil => exact .ok []
  | cons e rest =>
      obtain ⟨hfirst, hrest⟩ := List.forall_mem_append.mp he
      rw [evalArgs_cons, evalArgs_cons]
      refine (evalIn_carried hf h false e hfirst).bind fun v => ?_
      exact (evalArgs_carried hf h rest hrest).map _

end

end

/-! ### The listed identifiers -/

theorem mem_identifiers {e : Expr} {x : String} : x ∈ e.identifiers ↔ x ∈ e.occurrences :=
  List.mem_eraseDups

theorem eval_carried {functions : Registry} (hf : functions.Nameless) (e : Expr) {b c : Bindings}
    (h : Bindings.Keeps e.identifiers b c) :
    Carried e.identifiers b c (e.eval ⟨b, functions⟩) (e.eval ⟨c, functions⟩) :=
  evalIn_carried hf h false e fun _ hx => mem_identifiers.mpr hx

/-- What evaluation has to do with the identifiers that an expression lists. -/
structure ReadsListed (e : Expr) (functions : Registry) : Prop where
  /-- Bindings that agree on them give the same result. -/
  agree : ∀ b c : Bindings, (∀ x ∈ e.identifiers, Dict.get? b x = Dict.get? c x) →
    e.eval ⟨b, functions⟩ = e.eval ⟨c, functions⟩
  /-- Bindings that bind more give the value that there was. -/
  extend : ∀ (b c : Bindings) (v : Value), (∀ x w, Dict.get? b x = some w → Dict.get? c x = some w) →
    e.eval ⟨b, functions⟩ = .ok v → e.eval ⟨c, functions⟩ = .ok v
  /-- An identifier that is unknown is listed and not bound. -/
  unknown : ∀ (b : Bindings) (x : String),
    e.eval ⟨b, functions⟩ = .error (.unknownIdentifier x) →
      x ∈ e.identifiers ∧ Dict.get? b x = none

/-- **Evaluation depends only on the listed identifiers.** -/
theorem reads_listed (e : Expr) {functions : Registry} (hf : functions.Nameless) :
    e.ReadsListed functions where
  agree b c hagree := by
    have hcarried := eval_carried hf e (b := b) (c := c) fun x hx v hb => hagree x hx ▸ hb
    revert hcarried
    generalize e.eval ⟨b, functions⟩ = r, e.eval ⟨c, functions⟩ = r'
    intro hcarried
    cases hcarried with
    | ok a => rfl
    | failed he => rfl
    | unknown hx hb => rfl
    | gained hx hb hc => exact absurd (hagree _ hx ▸ hb) hc
  extend b c v hextends hv := by
    have hcarried := eval_carried hf e (b := b) (c := c) fun x _ w => hextends x w
    rw [hv] at hcarried
    revert hcarried
    generalize e.eval ⟨c, functions⟩ = r'
    intro hcarried
    cases hcarried with
    | ok a => rfl
  unknown b x hx := by
    have hcarried := eval_carried hf e (b := b) (c := b) fun _ _ _ hb => hb
    rw [hx] at hcarried
    cases hcarried with
    | failed he => exact absurd rfl (he x)
    | unknown hx hb => exact ⟨hx, hb⟩
    | gained hx hb hc => exact absurd hb hc

/-- `forced || count("key_") < late`: how late it is matters only if the door is not forced. -/
def doorRule : Expr :=
  .logical .or (.ident "forced")
    (.binary .lt (.call "count" [.literal (.str "key_")]) (.ident "late"))

/-- Aggregates over the keys that are held. -/
def doorKeys : Registry :=
  Registry.aggregates [("key_back", 1), ("key_front", 0)]

theorem reads_listed_door :
    doorKeys.Nameless ∧ doorRule.ReadsListed doorKeys ∧ doorRule.identifiers = ["forced", "late"] ∧
      doorRule.eval ⟨[("forced", .bool true), ("late", .null)], doorKeys⟩ = .ok (.bool true) ∧
      "late" ∈ doorRule.identifiers ∧ Dict.get? [("forced", Value.bool false)] "late" = none := by
  have hkeys : doorKeys.Nameless := Registry.nameless_aggregates _
  have hreads := reads_listed doorRule hkeys
  refine ⟨hkeys, hreads, by decide, ?_, hreads.unknown [("forced", .bool false)] "late" rfl⟩
  refine hreads.extend [("forced", .bool true)] _ (.bool true) (fun x w hx => ?_) rfl
  simp only [Dict.get?_cons, Dict.get?_nil] at hx ⊢
  split at hx
  · rename_i hforced
    rwa [if_pos hforced]
  · cases hx

end Expr

end EventNet
