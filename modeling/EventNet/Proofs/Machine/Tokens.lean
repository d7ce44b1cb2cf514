import EventNet.Proofs.Machine.Folding
import Mathlib.Algebra.Order.BigOperators.Group.List

/-!
The tokens that a list of events needs.

What an event does to the places depends on its type alone: the transition of the type takes its inputs
and gives its outputs.  So it can be told beforehand, without running any handler, whether a machine will
get through a list of events.  Each type has to be known to it, and each transition has to find its inputs
in what the events before it have left (`Covered`), which wraps around where it does not fit 64 bits.  For
a machine whose handlers never fail that is also enough.

Firing checks less.  It looks at the tokens as they are, once for each event, and at the transition that
was named and not at the one that the event's type leads to.
-/

namespace EventNet.Machine

/-! ### Taking and giving -/

/-- The number that a place has in a table of numbers, 0 if it has none. -/
def count (table : Dict Int) (place : String) : Int :=
  (table.get? place).getD 0

theorem count_insert (table : Dict Int) (k : String) (n : Int) (place : String) :
    count (table.insert k n) place = if k = place then n else count table place := by
  unfold count
  rw [Dict.get?_insert]
  split <;> rfl

theorem count_cons (k : String) (n : Int) (rest : Dict Int) (place : String) :
    count ((k, n) :: rest) place = if k = place then n else count rest place := by
  unfold count
  rw [Dict.get?_cons]
  split <;> rfl

/-- A sorted table has no second number for its first place. -/
theorem count_tail {k : String} {n : Int} {rest : Dict Int} (h : Dict.Sorted ((k, n) :: rest)) :
    count rest k = 0 := by
  unfold count
  rw [Dict.get?_eq_none_of_notMem fun e he =>
    (String.ne_of_lt ((Dict.sorted_cons.mp h).1 e he)).symm]
  rfl

theorem fits_count {table : Dict Int} (h : ∀ e ∈ table, Word.Fits e.2) (place : String) :
    Word.Fits (count table place) :=
  Dict.getD_of_forall h Word.fits_zero place

/-- Each place gets what is given to it, and stays within 64 bits. -/
theorem give_spec {outputs : Dict Int} (h : outputs.Sorted) {places : Dict Int}
    (hplaces : ∀ e ∈ places, Word.Fits e.2) :
    (∀ e ∈ give places outputs, Word.Fits e.2) ∧ ∀ place,
      count (give places outputs) place = Word.wrap (count places place + count outputs place) := by
  induction outputs generalizing places with
  | nil =>
      refine ⟨hplaces, fun place => ?_⟩
      show count places place = Word.wrap (count places place + 0)
      rw [Int.add_zero, Word.wrap_of_fits (fits_count hplaces place)]
  | cons q rest ih =>
      obtain ⟨k, n⟩ := q
      have htail := count_tail h
      have hnew := Dict.forall_mem_insert hplaces k (Word.fits_wrap (count places k + n))
      obtain ⟨hfit, hcount⟩ := ih (Dict.sorted_cons.mp h).2 hnew
      refine ⟨hfit, fun place => (hcount place).trans ?_⟩
      rw [count_insert, count_cons]
      by_cases hk : k = place
      · subst hk
        rw [if_pos rfl, if_pos rfl, htail, Int.add_zero, Word.wrap_of_fits (Word.fits_wrap _)]
      · rw [if_neg hk, if_neg hk]

/-- Inputs are taken exactly when every place has its tokens, and then each loses them. -/
theorem take_cases {inputs : Dict Int} (h : inputs.Sorted) {places : Dict Int}
    (hplaces : ∀ e ∈ places, Word.Fits e.2) :
    ((∀ q ∈ inputs, q.2 ≤ count places q.1) ∧ ∃ left, take places inputs = some left ∧
        (∀ e ∈ left, Word.Fits e.2) ∧
        ∀ place, count left place = Word.wrap (count places place - count inputs place)) ∨
      ((¬ ∀ q ∈ inputs, q.2 ≤ count places q.1) ∧ take places inputs = none) := by
  induction inputs generalizing places with
  | nil =>
      refine Or.inl ⟨fun q hq => absurd hq List.not_mem_nil, places, rfl, hplaces, fun place => ?_⟩
      show count places place = Word.wrap (count places place - 0)
      rw [Int.sub_zero, Word.wrap_of_fits (fits_count hplaces place)]
  | cons q rest ih =>
      obtain ⟨k, n⟩ := q
      obtain ⟨hbelow, hrest⟩ := Dict.sorted_cons.mp h
      have htake : take places ((k, n) :: rest) =
          if count places k < n then none
          else take (places.insert k (Word.wrap (count places k - n))) rest := rfl
      rw [htake]
      by_cases hn : count places k < n
      · rw [if_pos hn]
        exact Or.inr ⟨fun hall => Int.not_lt.mpr (hall (k, n) List.mem_cons_self) hn, rfl⟩
      rw [if_neg hn]
      have hothers : ∀ q ∈ rest,
          count (places.insert k (Word.wrap (count places k - n))) q.1 = count places q.1 :=
        fun q hq => by rw [count_insert, if_neg (String.ne_of_lt (hbelow q hq))]
      rcases ih hrest (Dict.forall_mem_insert hplaces k (Word.fits_wrap (count places k - n))) with
        ⟨hall, left, hleft, hfit, hcount⟩ | ⟨hlack, hnone⟩
      · refine Or.inl ⟨List.forall_mem_cons.mpr ⟨Int.not_lt.mp hn, fun q hq => ?_⟩, left, hleft,
          hfit, fun place => ?_⟩
        · rw [← hothers q hq]
          exact hall q hq
        · rw [hcount, count_insert, count_cons]
          by_cases hk : k = place
          · subst hk
            rw [if_pos rfl, if_pos rfl, count_tail h, Int.sub_zero,
              Word.wrap_of_fits (Word.fits_wrap _)]
          · rw [if_neg hk, if_neg hk]
      · refine Or.inr ⟨fun hall => hlack fun q hq => ?_, hnone⟩
        rw [hothers q hq]
        exact hall q (List.mem_cons_of_mem _ hq)

variable {σ : Type} {m : Machine σ}

/-! ### What events need -/

/-- A machine whose handlers never fail. -/
def Steady (m : Machine σ) : Prop :=
  ∀ entry ∈ m.handlers, ∀ u e, (entry.2 u e).1 = .ok ()

/-- The inputs and outputs of every transition are in the order of their places, each named once, and
every place holds a number of 64 bits. -/
structure Orderly (m : Machine σ) : Prop where
  transitions : ∀ t ∈ m.transitions, t.inputs.Sorted ∧ t.outputs.Sorted
  places : ∀ e ∈ m.places, Word.Fits e.2

/-- Whether events of a type have a transition or a handler. -/
def Knows (m : Machine σ) (type : String) : Prop :=
  (m.ofEvent? type).isSome ∨ m.handlers.contains type = true

theorem mem_of_ofEvent? {type : String} {t : Transition σ} (ht : m.ofEvent? type = some t) :
    t ∈ m.transitions :=
  have ⟨_, _, hi⟩ := Option.bind_eq_some_iff.mp ht
  List.mem_of_getElem? hi

/-- What an event of a type adds to a place. -/
def change (m : Machine σ) (type place : String) : Int :=
  match m.ofEvent? type with
  | none => 0
  | some t => count t.outputs place - count t.inputs place

theorem change_of_none {type : String} (h : m.ofEvent? type = none) (place : String) :
    m.change type place = 0 := by
  unfold change
  rw [h]

theorem change_of_some {type : String} {t : Transition σ} (h : m.ofEvent? type = some t)
    (place : String) : m.change type place = count t.outputs place - count t.inputs place := by
  unfold change
  rw [h]

theorem add_change {type : String} {t : Transition σ} (h : m.ofEvent? type = some t) (place : String) :
    m.tokens place - count t.inputs place + count t.outputs place =
      m.tokens place + m.change type place := by
  rw [change_of_some h]
  omega

/-- Whether there are tokens for an event of a type. -/
def Enough (m : Machine σ) (tokens : String → Int) (type : String) : Prop :=
  ∀ t, m.ofEvent? type = some t → ∀ q ∈ t.inputs, q.2 ≤ tokens q.1

/-- The tokens of a place after events of these types. -/
def tokensAfter (m : Machine σ) (types : List String) (place : String) : Int :=
  Word.wrap (m.tokens place + (types.map (m.change · place)).sum)

/-- Events of these types, one after the other, find their tokens in what those before have left. -/
def Covered (m : Machine σ) (types : List String) : Prop :=
  ∀ before type after, types = before ++ type :: after → m.Enough (m.tokensAfter before) type

/-- No place leaves 64 bits on the way through events of these types. -/
def Within (m : Machine σ) (types : List String) : Prop :=
  ∀ before after, types = before ++ after → ∀ place,
    Word.Fits (m.tokens place + (before.map (m.change · place)).sum)

theorem Orderly.tokensAfter_nil (h : m.Orderly) : m.tokensAfter [] = m.tokens := by
  funext place
  show Word.wrap (m.tokens place + 0) = m.tokens place
  rw [Int.add_zero]
  exact Word.wrap_of_fits (fits_count h.places place)

/-- What the first event leaves is what the others start from. -/
theorem tokensAfter_cons {m m' : Machine σ} {type : String} (hsame : m'.ofEvent? = m.ofEvent?)
    (htokens : ∀ place, m'.tokens place = Word.wrap (m.tokens place + m.change type place))
    (rest : List String) : m.tokensAfter (type :: rest) = m'.tokensAfter rest := by
  have hchange : m'.change = m.change := by
    unfold change
    rw [hsame]
  funext place
  unfold tokensAfter
  rw [hchange, htokens, Word.wrap_wrap_add, List.map_cons, List.sum_cons, Int.add_assoc]

theorem covered_nil (m : Machine σ) : m.Covered [] := fun before type after h => by
  simp at h

/-- The first event needs its tokens now, the others after it. -/
theorem Orderly.covered_cons {m m' : Machine σ} (h : m.Orderly) {type : String}
    (hsame : m'.ofEvent? = m.ofEvent?)
    (htokens : ∀ place, m'.tokens place = Word.wrap (m.tokens place + m.change type place))
    (rest : List String) :
    m.Covered (type :: rest) ↔ m.Enough m.tokens type ∧ m'.Covered rest := by
  have henough : ∀ tokens, m'.Enough tokens = m.Enough tokens := fun tokens => by
    unfold Enough
    rw [hsame]
  constructor
  · intro hcovered
    refine ⟨?_, fun before x after heq => ?_⟩
    · rw [← h.tokensAfter_nil]
      exact hcovered [] type rest rfl
    · rw [henough, ← tokensAfter_cons hsame htokens]
      exact hcovered (type :: before) x after (by rw [heq, List.cons_append])
  · rintro ⟨hfirst, hrest⟩ before x after heq
    cases before with
    | nil =>
        obtain ⟨rfl, rfl⟩ := List.cons.inj heq
        rwa [h.tokensAfter_nil]
    | cons b before =>
        obtain ⟨rfl, hlater⟩ := List.cons.inj heq
        have hnext := hrest before x after hlater
        rwa [henough, ← tokensAfter_cons hsame htokens] at hnext

/-! ### One event -/

theorem Steady.finish (h : m.Steady) (e : Event) (places : Dict Int) :
    ∃ state, m.finish e places = (.ok (), { m with state, places, version := e.version }) := by
  have hhandle : (m.handle e).1 = .ok () := by
    unfold handle
    cases hhandler : m.handlers.get? e.type with
    | none => rfl
    | some handler => exact h _ (Dict.mem_of_get? hhandler) m.state e
  rcases m.finish_cases e places with ⟨f, hf, -⟩ | ⟨-, heq⟩
  · cases hhandle.symm.trans hf
  · exact ⟨_, heq⟩

theorem moved_cases (h : m.Orderly) {type : String} {t : Transition σ}
    (ht : m.ofEvent? type = some t) :
    (m.Enough m.tokens type ∧ ∃ places, moved m.places t = some places ∧
        (∀ e ∈ places, Word.Fits e.2) ∧
        ∀ place, count places place = Word.wrap (m.tokens place + m.change type place)) ∨
      (¬ m.Enough m.tokens type ∧ moved m.places t = none) := by
  obtain ⟨hinputs, houtputs⟩ := h.transitions t (mem_of_ofEvent? ht)
  have henough : m.Enough m.tokens type ↔ ∀ q ∈ t.inputs, q.2 ≤ count m.places q.1 :=
    ⟨fun hall => hall t ht, fun hall t' ht' => by
      obtain rfl := Option.some.inj (ht.symm.trans ht')
      exact hall⟩
  rw [henough]
  unfold moved
  rcases take_cases hinputs h.places with ⟨hall, left, hleft, hfit, hcount⟩ | ⟨hlack, hnone⟩
  · obtain ⟨hgiven, hnew⟩ := give_spec houtputs hfit
    refine Or.inl ⟨hall, give left t.outputs, by rw [hleft]; rfl, hgiven, fun place => ?_⟩
    rw [hnew, hcount, Word.wrap_wrap_add, ← add_change ht]
    rfl
  · exact Or.inr ⟨hlack, by rw [hnone]; rfl⟩

/-- What an event comes to before its handler is run: its type is not known or lacks tokens and nothing
happens, or there are new places for it, which are the old ones if no transition has its type. -/
theorem Orderly.apply_cases (h : m.Orderly) (e : Event) :
    (m.Knows e.type ∧ m.Enough m.tokens e.type ∧ ∃ places, m.apply e = m.finish e places ∧
        (∀ e ∈ places, Word.Fits e.2) ∧
        (∀ place, count places place = Word.wrap (m.tokens place + m.change e.type place)) ∧
        (m.ofEvent? e.type = none → places = m.places)) ∨
      (¬ (m.Knows e.type ∧ m.Enough m.tokens e.type) ∧ ∃ f, m.apply e = (.error f, m)) := by
  unfold apply
  cases ht : m.ofEvent? e.type with
  | none =>
      have henough : m.Enough m.tokens e.type := fun t ht' => by
        rw [ht] at ht'
        cases ht'
      by_cases hhandler : m.handlers.contains e.type = true
      · refine Or.inl ⟨Or.inr hhandler, henough, m.places, ?_, h.places, fun place => ?_, fun _ => rfl⟩
        · simp only [if_pos hhandler]
        · rw [change_of_none ht, Int.add_zero]
          exact (Word.wrap_of_fits (fits_count h.places place)).symm
      · refine Or.inr ⟨fun ⟨hknows, _⟩ => ?_, .eventUnknown e.type, ?_⟩
        · rcases hknows with hsome | hhandler'
          · rw [ht] at hsome
            cases hsome
          · exact hhandler hhandler'
        · simp only [if_neg hhandler]
  | some t =>
      rcases moved_cases h ht with ⟨henough, places, hmoved, hfit, hcount⟩ | ⟨hlack, hnone⟩
      · refine Or.inl ⟨Or.inl (by rw [ht]; rfl), henough, places, ?_, hfit, hcount,
          fun hn => nomatch hn⟩
        simp only [hmoved]
      · refine Or.inr ⟨fun ⟨_, henough⟩ => hlack henough, .eventNotEnabled t.id e.type, ?_⟩
        simp only [hnone]

/-- What an event does to a machine whose handlers never fail: it moves its tokens, or its type is not
known or lacks tokens. -/
theorem Steady.apply_cases (h : m.Steady) (horderly : m.Orderly) (e : Event) :
    (m.Knows e.type ∧ m.Enough m.tokens e.type ∧ ∃ m',
        m.apply e = (.ok (), m') ∧ m'.Steady ∧ m'.Orderly ∧ m'.Knows = m.Knows ∧
        m'.ofEvent? = m.ofEvent? ∧
        ∀ place, m'.tokens place = Word.wrap (m.tokens place + m.change e.type place)) ∨
      (¬ (m.Knows e.type ∧ m.Enough m.tokens e.type) ∧ ∃ f, m.apply e = (.error f, m)) := by
  refine (horderly.apply_cases e).imp_left ?_
  rintro ⟨hknows, henough, places, happly, hfit, hcount, -⟩
  obtain ⟨state, hfinish⟩ := h.finish e places
  exact ⟨hknows, henough, _, happly.trans hfinish, h, ⟨horderly.transitions, hfit⟩, rfl, rfl, hcount⟩

/-! ### Events in a row -/

/-- Whether a machine knows events of these types and has tokens for them. -/
structure Ready (m : Machine σ) (types : List String) : Prop where
  known : ∀ type ∈ types, m.Knows type
  covered : m.Covered types

/-- The user state plays no part in this. -/
theorem ready_withState (m : Machine σ) (state : σ) (types : List String) :
    Ready { m with state } types ↔ m.Ready types :=
  ⟨fun h => ⟨h.known, h.covered⟩, fun h => ⟨h.known, h.covered⟩⟩

/-- A machine whose handlers never fail gets through events exactly when it is ready for their types. -/
theorem Steady.applyAll_iff (h : m.Steady) (horderly : m.Orderly) (events : List Event) :
    (∃ m', m.applyAll events = (.ok (), m')) ↔ m.Ready (events.map (·.type)) := by
  induction events generalizing m with
  | nil => exact ⟨fun _ => ⟨by simp, m.covered_nil⟩, fun _ => ⟨m, rfl⟩⟩
  | cons e rest ih =>
      rcases h.apply_cases horderly e with
        ⟨hknows, henough, next, happly, hsteady, hnext, hsame, hevents, htokens⟩ |
          ⟨hlack, f, happly⟩
      · have hcons := horderly.covered_cons hevents htokens (rest.map (·.type))
        rw [applyAll_cons_ok happly, ih hsteady hnext, List.map_cons]
        constructor
        · rintro ⟨hrest, hcovered⟩
          rw [hsame] at hrest
          exact ⟨List.forall_mem_cons.mpr ⟨hknows, hrest⟩, hcons.mpr ⟨henough, hcovered⟩⟩
        · rintro ⟨hall, hcovered⟩
          refine ⟨?_, (hcons.mp hcovered).2⟩
          rw [hsame]
          exact (List.forall_mem_cons.mp hall).2
      · constructor
        · rintro ⟨m', hok⟩
          simp only [applyAll, happly] at hok
          cases hok
        · rintro ⟨hall, hcovered⟩
          have hfirst := hcovered [] e.type (rest.map (·.type)) rfl
          rw [horderly.tokensAfter_nil] at hfirst
          exact absurd ⟨hall e.type List.mem_cons_self, hfirst⟩ hlack

/-! ### What firing asks for -/

/-- Tokens, inhibitors and guard let a transition fire. -/
structure Lets (m : Machine σ) (t : Transition σ) : Prop where
  inputs : ∀ q ∈ t.inputs, q.2 ≤ m.tokens q.1
  inhibitors : ∀ place ∈ t.inhibitors, m.tokens place = 0
  guard : ∀ guard, t.guard = some guard → guard m.state = true

theorem lets_iff {t : Transition σ} : (m.allows t && m.guardHolds t) = true ↔ m.Lets t := by
  have hguard : m.guardHolds t = true ↔ ∀ guard, t.guard = some guard → guard m.state = true := by
    unfold guardHolds
    cases t.guard with
    | none => exact ⟨fun _ _ => (nomatch ·), fun _ => rfl⟩
    | some guard => exact ⟨fun h _ heq => Option.some.inj heq ▸ h, fun h => h guard rfl⟩
  unfold allows
  rw [Bool.and_eq_true, Bool.and_eq_true, List.all_eq_true, List.all_eq_true, hguard]
  constructor
  · rintro ⟨⟨hinputs, hinhibitors⟩, hholds⟩
    exact ⟨fun q hq => of_decide_eq_true (hinputs q hq),
      fun place hplace => beq_iff_eq.mp (hinhibitors place hplace), hholds⟩
  · intro h
    exact ⟨⟨fun q hq => decide_eq_true (h.inputs q hq),
      fun place hplace => beq_iff_eq.mpr (h.inhibitors place hplace)⟩, h.guard⟩

theorem canFire_iff (m : Machine σ) (id : String) :
    m.canFire id = true ↔ ∃ t, m.find? id = some t ∧ m.Lets t := by
  unfold canFire
  cases hfind : m.find? id with
  | none => exact ⟨(nomatch ·), fun ⟨_, h, _⟩ => nomatch h⟩
  | some t =>
      show (m.allows t && m.guardHolds t) = true ↔ _
      rw [lets_iff]
      exact ⟨fun h => ⟨t, rfl, h⟩, fun ⟨_, heq, h⟩ => Option.some.inj heq ▸ h⟩

/-- Firing answers the event of the transition, or an error where it is not let. -/
theorem fire_cases (m : Machine σ) (stamp : Stamp) (id : String) (data : Json) :
    (∃ t, m.find? id = some t ∧ m.Lets t ∧ m.fire stamp id data =
        .ok { Event.new stamp m.stream t.eventType data with
          version := Word.wrap (m.version + 1) }) ∨
      (m.canFire id = false ∧ ∃ f, m.fire stamp id data = .error f) := by
  unfold fire canFire
  cases hfind : m.find? id with
  | none => exact Or.inr ⟨rfl, _, rfl⟩
  | some t =>
      dsimp only
      cases hallows : m.allows t with
      | false => exact Or.inr ⟨rfl, _, rfl⟩
      | true =>
          cases hholds : m.guardHolds t with
          | false => exact Or.inr ⟨rfl, _, rfl⟩
          | true => exact Or.inl ⟨t, rfl, lets_iff.mp (by rw [hallows, hholds]; rfl), rfl⟩

/-! ### Events that were fired -/

/-- Events of two types take from different places. -/
def Apart (m : Machine σ) (a b : String) : Prop :=
  ∀ t u, m.ofEvent? a = some t → m.ofEvent? b = some u → ∀ q ∈ t.inputs, ∀ r ∈ u.inputs, q.1 ≠ r.1

/-- Whether every transition that can be named has its event type to itself. -/
def Distinguishes (m : Machine σ) : Prop :=
  ∀ id t, m.find? id = some t → m.ofEvent? t.eventType = some t

/-- Whether an event is one that a machine fires as it is. -/
def Fires (m : Machine σ) (e : Event) : Prop :=
  ∃ stamp id data, m.fire stamp id data = .ok e

/-- The event of a firing has its tokens. -/
theorem Distinguishes.of_fires (hown : m.Distinguishes) {e : Event} (h : m.Fires e) :
    m.Knows e.type ∧ m.Enough m.tokens e.type := by
  obtain ⟨stamp, id, data, he⟩ := h
  rcases m.fire_cases stamp id data with ⟨t, hfind, hlets, hfire⟩ | ⟨-, f, hfire⟩
  · have htype : e.type = t.eventType := congrArg Event.type (Except.ok.inj (he.symm.trans hfire))
    rw [htype, Knows, hown id t hfind]
    refine ⟨Or.inl rfl, fun t' ht' => ?_⟩
    exact Option.some.inj ((hown id t hfind).symm.trans ht') ▸ hlets.inputs
  · cases he.symm.trans hfire

/-- An event that takes nothing from a place leaves it its tokens, where no transition gives a negative
number. -/
theorem change_nonneg (hgives : ∀ t ∈ m.transitions, ∀ q ∈ t.outputs, 0 ≤ q.2) {type place : String}
    (htakes : ∀ t, m.ofEvent? type = some t → ∀ q ∈ t.inputs, q.1 ≠ place) :
    0 ≤ m.change type place := by
  cases ht : m.ofEvent? type with
  | none => rw [change_of_none ht]
  | some t =>
      have hinput : count t.inputs place = 0 := by
        unfold count
        rw [Dict.get?_eq_none_of_notMem (htakes t ht)]
        rfl
      have houtput : 0 ≤ count t.outputs place :=
        Dict.getD_of_forall (P := (0 ≤ ·)) (hgives t (mem_of_ofEvent? ht)) (Int.le_refl 0) place
      rw [change_of_some ht]
      omega

/-- Events that have their tokens at once and take from different places are covered, where no place
leaves 64 bits. -/
theorem covered_of_apart (hgives : ∀ t ∈ m.transitions, ∀ q ∈ t.outputs, 0 ≤ q.2)
    {types : List String} (henough : ∀ type ∈ types, m.Enough m.tokens type)
    (hapart : types.Pairwise m.Apart) (hwithin : m.Within types) : m.Covered types := by
  rintro before type after rfl t ht q hq
  have hnow : q.2 ≤ m.tokens q.1 :=
    henough type (List.mem_append_right _ List.mem_cons_self) t ht q hq
  have hsum : 0 ≤ (before.map (m.change · q.1)).sum := by
    refine List.sum_nonneg fun n hn => ?_
    obtain ⟨x, hx, rfl⟩ := List.mem_map.mp hn
    have hxtype : m.Apart x type :=
      (List.pairwise_append.mp hapart).2.2 x hx type List.mem_cons_self
    exact change_nonneg hgives fun u hu r hr => hxtype u t hu ht r hr q hq
  unfold tokensAfter
  rw [Word.wrap_of_fits (hwithin before _ rfl q.1)]
  omega

end EventNet.Machine
