import EventNet.Net.Guard
import EventNet.Proofs.Dict
import Mathlib.Data.List.Dedup

/-!
An evaluator that remembers answers like one that does not.

Guards and constraints share one cache, which knows a text but not what it was asked for or what it was
tested in.  That is harmless because what is kept depends on the text alone: after any questions the cache
has exactly the texts among theirs that can be read, each with what it is read as (`Remembers`).  A
question finds its text read, or reads it now; either way the answer is the one that is got by reading
every text anew.  A text that cannot be read is read again whenever it is asked for.
-/

namespace EventNet

/-- What an evaluator is asked. -/
inductive Question where
  | guard (source : String) (bindings : Bindings)
  | constraint (source : String) (tokens : Dict Int)

namespace Question

/-- The text to be tested. -/
def source : Question → String
  | .guard source _ => source
  | .constraint source _ => source

/-- What it is tested in. -/
def scope (functions : Registry) : Question → Expr.Scope
  | .guard _ bindings => guardScope functions bindings
  | .constraint _ tokens => constraintScope functions tokens

/-- The answer of an evaluator that keeps nothing. -/
def answer (e : GuardEvaluator) : Question → Except ExprError Bool
  | .guard source bindings => e.guard source bindings
  | .constraint source tokens => e.constraint source tokens

theorem answer_standard (functions : Registry) (q : Question) :
    q.answer (.standard functions) = Expr.testText q.source (q.scope functions) := by
  cases q <;> rfl

end Question

namespace CachingEvaluator

/-- Ask a question. -/
def ask (e : CachingEvaluator) : Question → Except ExprError Bool × CachingEvaluator
  | .guard source bindings => e.guard source bindings
  | .constraint source tokens => e.constraint source tokens

/-- The evaluator after some questions. -/
def after (e : CachingEvaluator) : List Question → CachingEvaluator
  | [] => e
  | q :: rest => (e.ask q).2.after rest

/-- The answers to questions that are asked one after the other. -/
def answers (e : CachingEvaluator) : List Question → List (Except ExprError Bool)
  | [] => []
  | q :: rest => (e.ask q).1 :: (e.ask q).2.answers rest

theorem ask_eq (e : CachingEvaluator) (q : Question) :
    e.ask q = e.testIn q.source (q.scope (e.functions.getD [])) := by
  cases q <;> rfl

/-- The cache has those of some texts that can be read, with what they are read as. -/
structure Remembers (e : CachingEvaluator) (sources : List String) : Prop where
  sorted : e.cache.Sorted
  get? : ∀ source c,
    e.cache.get? source = some c ↔ source ∈ sources ∧ CompiledExpr.compile source = .ok c

theorem remembers_fresh (functions : Option Registry) : (fresh functions).Remembers [] where
  sorted := Dict.sorted_nil
  get? _ _ := iff_of_false (nomatch ·) fun h => nomatch h.1

variable {e : CachingEvaluator} {sources : List String}

/-! ### One question -/

/-- A text that is in the cache, or cannot be read, changes nothing. -/
theorem Remembers.again (h : e.Remembers sources) {source : String}
    (hsame : ∀ c, CompiledExpr.compile source = .ok c → source ∈ sources) :
    e.Remembers (sources ++ [source]) where
  sorted := h.sorted
  get? s c := by
    rw [h.get?, List.mem_append, List.mem_singleton]
    refine and_congr_left fun hread => ⟨Or.inl, ?_⟩
    rintro (hs | rfl)
    · exact hs
    · exact hsame c hread

/-- A text that is read for the first time is kept. -/
theorem Remembers.insert (h : e.Remembers sources) {source : String} {c : CompiledExpr}
    (hread : CompiledExpr.compile source = .ok c) :
    Remembers { e with cache := e.cache.insert source c } (sources ++ [source]) where
  sorted := h.sorted.insert source c
  get? s d := by
    show (e.cache.insert source c).get? s = some d ↔ _
    rw [List.mem_append, List.mem_singleton]
    by_cases hs : source = s
    · subst hs
      rw [Dict.get?_insert_self, hread]
      simp
    · rw [Dict.get?_insert_of_ne _ _ hs, h.get?]
      simp [Ne.symm hs]

/-- Whatever is in the cache, a text is read as if there were none, and then it is remembered. -/
theorem Remembers.compiled (h : e.Remembers sources) (source : String) :
    (e.compiled source).1 = CompiledExpr.compile source ∧
      (e.compiled source).2.functions = e.functions ∧
      (e.compiled source).2.Remembers (sources ++ [source]) := by
  unfold CachingEvaluator.compiled
  cases hcache : e.cache.get? source with
  | some c =>
      obtain ⟨hmem, hread⟩ := (h.get? source c).mp hcache
      exact ⟨hread.symm, rfl, h.again fun _ _ => hmem⟩
  | none =>
      cases hread : CompiledExpr.compile source with
      | ok c => exact ⟨rfl, rfl, h.insert hread⟩
      | error f => exact ⟨rfl, rfl, h.again fun c hc => nomatch hread.symm.trans hc⟩

theorem Remembers.ask (h : e.Remembers sources) (q : Question) :
    (e.ask q).1 = q.answer (.standard (e.functions.getD [])) ∧
      (e.ask q).2.functions = e.functions ∧ (e.ask q).2.Remembers (sources ++ [q.source]) := by
  obtain ⟨hread, hfunctions, hafter⟩ := h.compiled q.source
  rw [ask_eq, Question.answer_standard]
  refine ⟨?_, hfunctions, hafter⟩
  show (e.compiled q.source).1.bind _ = _
  rw [hread]
  rfl

/-! ### All questions -/

theorem Remembers.after (h : e.Remembers sources) (questions : List Question) :
    (e.after questions).Remembers (sources ++ questions.map (·.source)) := by
  induction questions generalizing e sources with
  | nil =>
      rw [List.map_nil, List.append_nil]
      exact h
  | cons q rest ih =>
      obtain ⟨-, -, hnext⟩ := h.ask q
      have hrest := ih hnext
      rw [List.append_assoc] at hrest
      exact hrest

theorem Remembers.answers (h : e.Remembers sources) (questions : List Question) :
    e.answers questions = questions.map fun q => q.answer (.standard (e.functions.getD [])) := by
  induction questions generalizing e sources with
  | nil => rfl
  | cons q rest ih =>
      obtain ⟨hanswer, hfunctions, hnext⟩ := h.ask q
      rw [CachingEvaluator.answers, List.map_cons, hanswer, ih hnext, hfunctions]

/-- What is kept is what the text is read as. -/
theorem Remembers.compile_of_mem (h : e.Remembers sources) {source : String} {c : CompiledExpr}
    (hmem : (source, c) ∈ e.cache) : CompiledExpr.compile source = .ok c :=
  ((h.get? source c).mp (Dict.get?_of_mem h.sorted hmem)).2

/-- As many texts are kept as there are different ones that can be read. -/
theorem Remembers.cached_eq (h : e.Remembers sources) :
    e.cached = (sources.filter fun source => (CompiledExpr.compile source).isOk).dedup.length := by
  have hkeys : e.cache.keys.Nodup :=
    List.pairwise_map.mpr (h.sorted.imp fun hlt => String.ne_of_lt hlt)
  have hperm : e.cache.keys.Perm
      (sources.filter fun source => (CompiledExpr.compile source).isOk).dedup := by
    refine (List.perm_ext_iff_of_nodup hkeys (List.nodup_dedup _)).mpr fun source => ?_
    rw [List.mem_dedup, List.mem_filter]
    constructor
    · intro hsource
      obtain ⟨⟨source, c⟩, hmem, rfl⟩ := List.mem_map.mp hsource
      obtain ⟨hasked, hread⟩ := (h.get? source c).mp (Dict.get?_of_mem h.sorted hmem)
      exact ⟨hasked, by rw [hread]; rfl⟩
    · rintro ⟨hasked, hreads⟩
      cases hread : CompiledExpr.compile source with
      | ok c =>
          have hget := (h.get? source c).mpr ⟨hasked, hread⟩
          exact List.mem_map_of_mem (f := (·.1)) (Dict.mem_of_get? hget)
      | error f =>
          rw [hread] at hreads
          cases hreads
  rw [← hperm.length_eq]
  exact (List.length_map _).symm

/-- **What an evaluator remembers does not show.**  Whatever guards and constraints an evaluator is asked
for, one after the other, each is answered as by an evaluator that has read nothing yet, which is as the
evaluator answers that keeps nothing.  Everything in the cache is what its text is read as, and there are
as many entries as different texts that can be read among those asked for. -/
theorem cache_unseen (functions : Option Registry) (questions : List Question) :
    ((fresh functions).answers questions = questions.map fun q => ((fresh functions).ask q).1) ∧
      (∀ q : Question,
        ((fresh functions).ask q).1 = q.answer (.standard (functions.getD []))) ∧
      (∀ source c, (source, c) ∈ ((fresh functions).after questions).cache →
        CompiledExpr.compile source = .ok c) ∧
      ((fresh functions).after questions).cached =
        ((questions.map (·.source)).filter fun source =>
          (CompiledExpr.compile source).isOk).dedup.length := by
  have hfresh := remembers_fresh functions
  have hask : ∀ q : Question,
      ((fresh functions).ask q).1 = q.answer (.standard (functions.getD [])) :=
    fun q => (hfresh.ask q).1
  have hafter := hfresh.after questions
  rw [List.nil_append] at hafter
  refine ⟨?_, hask, fun source c hmem => hafter.compile_of_mem hmem, hafter.cached_eq⟩
  rw [hfresh.answers]
  exact List.map_congr_left fun q _ => (hask q).symm

end CachingEvaluator

end EventNet
