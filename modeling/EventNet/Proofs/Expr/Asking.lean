import EventNet.Net.Guard
import EventNet.Proofs.Dict

/-!
What an expression asks its scope for.

An expression looks up the identifiers it mentions and the functions it calls, and nothing else.  Two
scopes that answer these alike are the same to it: `evalIn_congr`.

Of the functions that a constraint can call, most are the same over counts that differ only by entries
of zero.  A sum, the number of positive counts and the count of one state depend on what is not zero
alone, and so does the greatest count if none is below zero.  The least one does not.
-/

namespace EventNet

namespace Expr

mutual

/-- The names of the functions that are called, from left to right. -/
def called : Expr → List String
  | .literal _ => []
  | .ident _ => []
  | .unary _ operand => called operand
  | .binary _ left right => called left ++ called right
  | .logical _ left right => called left ++ called right
  | .index target key => called target ++ called key
  | .field target _ => called target
  | .call function args => function :: calledAll args

/-- `called` for every argument. -/
def calledAll : List Expr → List String
  | [] => []
  | e :: rest => called e ++ calledAll rest

end

/-! ### Scopes that answer alike -/

/-- Scopes that have the same values for some identifiers and the same functions of some names. -/
structure Scope.Alike (names functions : List String) (scope other : Scope) : Prop where
  value : ∀ x ∈ names, Dict.get? scope.bindings x = Dict.get? other.bindings x
  function : ∀ f ∈ functions, scope.function? f = other.function? f

section

variable {names functions : List String} {scope other : Scope}

mutual

theorem evalIn_congr (h : scope.Alike names functions other) (container : Bool) (e : Expr)
    (hnames : ∀ x ∈ e.occurrences, x ∈ names) (hcalls : ∀ f ∈ e.called, f ∈ functions) :
    evalIn scope container e = evalIn other container e := by
  cases e with
  | literal v => rfl
  | ident x =>
      unfold evalIn
      rw [h.value x (hnames x List.mem_cons_self)]
  | unary op operand =>
      rw [evalIn_unary, evalIn_unary, evalIn_congr h false operand hnames hcalls]
  | binary op left right =>
      obtain ⟨hleft, hright⟩ := List.forall_mem_append.mp hnames
      obtain ⟨hleft', hright'⟩ := List.forall_mem_append.mp hcalls
      rw [evalIn_binary, evalIn_binary, evalIn_congr h false left hleft hleft',
        evalIn_congr h false right hright hright']
  | logical op left right =>
      obtain ⟨hleft, hright⟩ := List.forall_mem_append.mp hnames
      obtain ⟨hleft', hright'⟩ := List.forall_mem_append.mp hcalls
      rw [evalIn_logical, evalIn_logical, evalIn_congr h false left hleft hleft',
        evalIn_congr h false right hright hright']
  | index target key =>
      obtain ⟨htarget, hkey⟩ := List.forall_mem_append.mp hnames
      obtain ⟨htarget', hkey'⟩ := List.forall_mem_append.mp hcalls
      rw [evalIn_index, evalIn_index, evalIn_congr h true target htarget htarget',
        evalIn_congr h false key hkey hkey']
  | field target name =>
      rw [evalIn_field, evalIn_field, evalIn_congr h true target hnames hcalls]
  | call function args =>
      obtain ⟨hfunction, hargs⟩ := List.forall_mem_cons.mp hcalls
      rw [evalIn_call, evalIn_call, evalArgs_congr h args hnames hargs, h.function function hfunction]

theorem evalArgs_congr (h : scope.Alike names functions other) (args : List Expr)
    (hnames : ∀ x ∈ occurrencesAll args, x ∈ names) (hcalls : ∀ f ∈ calledAll args, f ∈ functions) :
    evalArgs scope args = evalArgs other args := by
  cases args with
  | nil => rfl
  | cons e rest =>
      obtain ⟨hfirst, hrest⟩ := List.forall_mem_append.mp hnames
      obtain ⟨hfirst', hrest'⟩ := List.forall_mem_append.mp hcalls
      rw [evalArgs_cons, evalArgs_cons, evalIn_congr h false e hfirst hfirst',
        evalArgs_congr h rest hrest hrest']

end

end

theorem test_congr {scope other : Scope} {e : Expr} (h : scope.Alike e.identifiers e.called other) :
    e.test scope = e.test other := by
  have heval : e.eval scope = e.eval other :=
    evalIn_congr h false e (fun _ hx => List.mem_eraseDups.mpr hx) fun _ hf => hf
  unfold test
  rw [heval]

/-- A text is tested alike in two scopes if the expression it stands for finds them alike. -/
theorem testText_congr {text : String} {scope other : Scope}
    (h : ∀ e, parse text = .ok e → scope.Alike e.identifiers e.called other) :
    testText text scope = testText text other := by
  unfold testText CompiledExpr.compile
  cases hparse : parse text with
  | error e => rfl
  | ok e => exact test_congr (h e hparse)

end Expr

theorem GuardEvaluator.standard_guard_congr {functions : Registry} {text : String} {b c : Bindings}
    (h : ∀ e, Expr.parse text = .ok e →
      (guardScope functions b).Alike e.identifiers e.called (guardScope functions c)) :
    (standard functions).guard text b = (standard functions).guard text c :=
  Expr.testText_congr h

/-! ### Counts that differ by zeros -/

/-- Counts of which those that are not zero are the same. -/
structure SameCounts (counts others : Dict Int) : Prop where
  sorted : counts.Sorted
  sortedToo : others.Sorted
  count : ∀ state, (counts.get? state).getD 0 = (others.get? state).getD 0

namespace Dict

/-- The entries that are not zero. -/
def nonzero (counts : Dict Int) : Dict Int :=
  counts.filter fun e => e.2 ≠ 0

theorem get?_nonzero {counts : Dict Int} (h : counts.Sorted) (state : String) :
    counts.nonzero.get? state = (counts.get? state).filter (· ≠ 0) := by
  have hsorted : counts.nonzero.Sorted := List.Pairwise.filter _ h
  ext n
  rw [Option.filter_eq_some_iff]
  constructor
  · intro hn
    obtain ⟨hmem, hne⟩ := List.mem_filter.mp (mem_of_get? hn)
    exact ⟨get?_of_mem h hmem, hne⟩
  · rintro ⟨hn, hne⟩
    exact get?_of_mem hsorted (List.mem_filter.mpr ⟨mem_of_get? hn, hne⟩)

end Dict

section

variable {counts others : Dict Int}

theorem SameCounts.nonzero_eq (h : SameCounts counts others) : counts.nonzero = others.nonzero := by
  refine Dict.Sorted.ext (List.Pairwise.filter _ h.sorted) (List.Pairwise.filter _ h.sortedToo) ?_
  intro state
  rw [Dict.get?_nonzero h.sorted, Dict.get?_nonzero h.sortedToo]
  have hcount := h.count state
  cases hleft : counts.get? state <;> cases hright : others.get? state <;>
    simp_all [Option.filter]

namespace Registry

/-- The counts that are not zero are found among the entries that are not zero. -/
theorem filter_countsWith (counts : Dict Int) (start : String) :
    (countsWith counts start).filter (· ≠ 0) = countsWith counts.nonzero start := by
  unfold countsWith Dict.nonzero
  rw [List.filter_map, List.filter_filter, List.filter_filter]
  refine congrArg (List.map _) (List.filter_congr fun e _ => ?_)
  exact Bool.and_comm _ _

/-- An answer that depends on counts other than zero is the same over both. -/
theorem aggregate_congr (h : SameCounts counts others) (name : String) (answer : List Int → Int)
    (hleft : ∀ start, answer (countsWith counts start) =
      answer ((countsWith counts start).filter (· ≠ 0)))
    (hright : ∀ start, answer (countsWith others start) =
      answer ((countsWith others start).filter (· ≠ 0))) :
    aggregate name counts answer = aggregate name others answer := by
  unfold aggregate
  funext args
  refine congrArg (fun f => Except.map f (Function.oneString name args)) (funext fun start => ?_)
  rw [hleft, hright, filter_countsWith, filter_countsWith, h.nonzero_eq]

theorem sum_filter (l : List Int) : Word.sum l = Word.sum (l.filter (· ≠ 0)) := by
  rw [Word.sum_eq_wrap, Word.sum_eq_wrap]
  congr 1
  induction l with
  | nil => rfl
  | cons n rest ih =>
      by_cases hn : n = 0
      · simp [hn, ih]
      · simp [hn, ih]

theorem positive_filter (l : List Int) :
    ((l.filter (0 < ·)).length : Int) = (((l.filter (· ≠ 0)).filter (0 < ·)).length : Int) := by
  rw [List.filter_filter]
  refine congrArg (fun l => (List.length l : Int)) (List.filter_congr fun n _ => ?_)
  by_cases hn : 0 < n
  · have : n ≠ 0 := by omega
    simp [hn, this]
  · simp [hn]

theorem getD_max?_cons {n : Int} (hn : 0 ≤ n) (rest : List Int) :
    (n :: rest).max?.getD 0 = max n (rest.max?.getD 0) := by
  rw [List.max?_cons]
  cases rest.max? with
  | none => exact (max_eq_left hn).symm
  | some k => rfl

theorem greatest_filter {l : List Int} (h : ∀ n ∈ l, 0 ≤ n) :
    0 ≤ l.max?.getD 0 ∧ l.max?.getD 0 = (l.filter (· ≠ 0)).max?.getD 0 := by
  induction l with
  | nil => exact ⟨Int.le_refl 0, rfl⟩
  | cons n rest ih =>
      obtain ⟨hn, hrest⟩ := List.forall_mem_cons.mp h
      obtain ⟨hnonneg, hfilter⟩ := ih hrest
      rw [getD_max?_cons hn]
      refine ⟨le_max_of_le_left hn, ?_⟩
      by_cases hzero : n = 0
      · rw [hzero, max_eq_right hnonneg, hfilter]
        rfl
      · rw [List.filter_cons_of_pos (by simpa using hzero), getD_max?_cons hn, hfilter]

theorem nonneg_countsWith (hsorted : counts.Sorted) (h : ∀ state, 0 ≤ (counts.get? state).getD 0)
    (start : String) : ∀ n ∈ countsWith counts start, 0 ≤ n := by
  intro n hn
  obtain ⟨⟨state, n⟩, he, rfl⟩ := List.mem_map.mp hn
  have hstate := h state
  rwa [Dict.get?_of_mem hsorted (List.mem_filter.mp he).1] at hstate

theorem sorted_aggregates (counts : Dict Int) : (aggregates counts).Sorted := by
  have hkeys : ((aggregates counts).map (·.1)).Pairwise (· < ·) := by
    show ["count", "maxOf", "minOf", "sum", "tokens"].Pairwise (· < ·)
    decide
  exact List.pairwise_map.mp hkeys

/-- Over counts that differ by zeros the aggregates are the same, but for the least count; and for
the greatest one if a count is below zero. -/
theorem aggregates_congr (h : SameCounts counts others) {f : String} (hleast : f ≠ "minOf")
    (hgreatest : f = "maxOf" → ∀ state, 0 ≤ (counts.get? state).getD 0) :
    (aggregates counts).get? f = (aggregates others).get? f := by
  have hcount := aggregate_congr h "count"
    (fun l => ((l.filter (0 < ·)).length : Nat)) (fun _ => positive_filter _)
    fun _ => positive_filter _
  have hsum := aggregate_congr h "sum" Word.sum
    (fun _ => sum_filter _) fun _ => sum_filter _
  unfold aggregates
  simp only [hcount, hsum, h.count, Dict.get?_cons, if_neg hleast.symm]
  by_cases hf : f = "maxOf"
  · have hleft := hgreatest hf
    have hright : ∀ state, 0 ≤ (others.get? state).getD 0 := fun state => h.count state ▸ hleft state
    rw [aggregate_congr h "maxOf" (fun l => l.max?.getD 0)
      (fun start => (greatest_filter (nonneg_countsWith h.sorted hleft start)).2)
      fun start => (greatest_filter (nonneg_countsWith h.sortedToo hright start)).2]
  · rw [if_neg (Ne.symm hf), if_neg (Ne.symm hf)]

end Registry

/-- An expression that cannot tell some counts from others that differ from them by zeros: it mentions
only states that have counts among both or among neither, and does not ask for the least count, nor for
the greatest one where a count is below zero. -/
structure Expr.Overlooks (e : Expr) (counts others : Dict Int) : Prop where
  named : ∀ x ∈ e.identifiers, counts.get? x = others.get? x
  least : "minOf" ∉ e.called
  greatest : "maxOf" ∈ e.called → ∀ state, 0 ≤ (counts.get? state).getD 0

theorem Expr.Overlooks.alike {e : Expr} (ho : e.Overlooks counts others)
    (h : SameCounts counts others) (functions : Registry) :
    (constraintScope functions counts).Alike e.identifiers e.called
      (constraintScope functions others) where
  value x hx := by
    unfold constraintScope
    rw [Dict.get?_mapValues, Dict.get?_mapValues, ho.named x hx]
  function f hf := by
    have haggregate : (Registry.aggregates counts).get? f = (Registry.aggregates others).get? f :=
      Registry.aggregates_congr h (fun heq => ho.least (heq ▸ hf)) fun heq => ho.greatest (heq ▸ hf)
    unfold constraintScope Scope.function? Registry.extend
    rw [Dict.get?_insertAll (Registry.sorted_aggregates counts),
      Dict.get?_insertAll (Registry.sorted_aggregates others), haggregate]

/-- Over counts that differ by zeros a constraint that cannot tell them apart is tested alike. -/
theorem GuardEvaluator.standard_constraint_congr (h : SameCounts counts others)
    (functions : Registry) {text : String}
    (ho : ∀ e, Expr.parse text = .ok e → e.Overlooks counts others) :
    (standard functions).constraint text counts = (standard functions).constraint text others :=
  Expr.testText_congr fun e he => (ho e he).alike h functions

end

end EventNet
