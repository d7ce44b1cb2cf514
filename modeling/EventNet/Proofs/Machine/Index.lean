import EventNet.Proofs.Machine.Acts
import Mathlib.Data.List.Induction

/-!
The transition that an event leads to.

A machine finds a transition by its identity when it is to fire, and by the event type when an event is
applied, each through an index of its own (`Indexed`).  Adding a transition writes to both, so what they
find can be told from the transitions that were given: by identity it is the last one of that name
(`Indexed.find?_transition`), and by event type the last one of that type, unless the type was withdrawn
since (`Indexed.ofEvent?_transition`).

A type is withdrawn when a transition that has it is replaced by one of another type.  Its entry is then
taken out whoever it belongs to: another transition of the same type stays in the machine and can fire,
but its events lead nowhere.
-/

namespace EventNet.Machine

variable {σ : Type}

/-! ### The transitions that were given -/

/-- The last transition of a list that passes a test. -/
def latest (given : List (Transition σ)) (p : Transition σ → Bool) : Option (Transition σ) :=
  (given.filter p).getLast?

theorem latest_snoc (given : List (Transition σ)) (t : Transition σ) (p : Transition σ → Bool) :
    latest (given ++ [t]) p = if p t then some t else latest given p := by
  unfold latest
  rw [List.filter_append]
  by_cases hp : p t = true
  · rw [if_pos hp, List.filter_cons_of_pos hp]
    exact List.getLast?_concat
  · rw [if_neg hp, List.filter_cons_of_neg hp, List.filter_nil, List.append_nil]

theorem mem_of_latest {given : List (Transition σ)} {p : Transition σ → Bool} {t : Transition σ}
    (h : latest given p = some t) : t ∈ given ∧ p t = true :=
  List.mem_filter.mp (List.mem_of_getLast? h)

/-- The last one is not before another one that passes. -/
theorem mem_of_latest_append {before after : List (Transition σ)} {p : Transition σ → Bool}
    {t : Transition σ} (h : latest (before ++ after) p = some t) (hafter : ∃ u ∈ after, p u = true) :
    t ∈ after := by
  obtain ⟨u, hu, hpu⟩ := hafter
  unfold latest at h
  rw [List.filter_append, List.getLast?_append_of_ne_nil _
    (List.ne_nil_of_mem (List.mem_filter.mpr ⟨hu, hpu⟩))] at h
  exact (List.mem_filter.mp (List.mem_of_getLast? h)).1

/-- A transition of an event type was replaced by one of another, and no transition of the type was given
since then. -/
def Withdrawn (given : List (Transition σ)) (type : String) : Prop :=
  ∃ before t after old, given = before ++ t :: after ∧
    latest before (·.id == t.id) = some old ∧ old.eventType = type ∧
      ∀ u ∈ t :: after, u.eventType ≠ type

theorem withdrawn_snoc (given : List (Transition σ)) (t : Transition σ) (type : String) :
    Withdrawn (given ++ [t]) type ↔ t.eventType ≠ type ∧
      (Withdrawn given type ∨
        ∃ old, latest given (·.id == t.id) = some old ∧ old.eventType = type) := by
  constructor
  · rintro ⟨before, u, after, old, hgiven, hold, htype, hothers⟩
    rcases List.eq_nil_or_concat after with rfl | ⟨after, v, rfl⟩
    · obtain ⟨rfl, hlast⟩ := List.append_inj' hgiven rfl
      obtain rfl := (List.cons.inj hlast).1
      exact ⟨hothers t List.mem_cons_self, Or.inr ⟨old, hold, htype⟩⟩
    · rw [List.concat_eq_append, ← List.cons_append, ← List.append_assoc] at hgiven
      rw [List.concat_eq_append, ← List.cons_append] at hothers
      obtain ⟨rfl, hlast⟩ := List.append_inj' hgiven rfl
      obtain rfl := (List.cons.inj hlast).1
      exact ⟨hothers t (List.mem_append_right _ List.mem_cons_self),
        Or.inl ⟨before, u, after, old, rfl, hold, htype,
          fun w hw => hothers w (List.mem_append_left _ hw)⟩⟩
  · rintro ⟨ht, ⟨before, u, after, old, rfl, hold, htype, hothers⟩ | ⟨old, hold, htype⟩⟩
    · refine ⟨before, u, after ++ [t], old, by simp, hold, htype, fun w hw => ?_⟩
      rcases List.mem_append.mp (List.cons_append ▸ hw) with hw | hw
      · exact hothers w hw
      · exact List.mem_singleton.mp hw ▸ ht
    · refine ⟨given, t, [], old, rfl, hold, htype, fun w hw => ?_⟩
      exact List.mem_singleton.mp hw ▸ ht

/-! ### The indexes -/

/-- The indexes of a machine fit its transitions: by identity each is found at its place, and an entry for
an event type leads to a transition of that type. -/
structure Indexed (m : Machine σ) : Prop where
  named : ∀ id i, m.byId.get? id = some i → ∃ t, m.transitions[i]? = some t ∧ t.id = id
  typed : ∀ type i, m.byEvent.get? type = some i →
    ∃ t, m.transitions[i]? = some t ∧ t.eventType = type
  entered : ∀ i t, m.transitions[i]? = some t → m.byId.get? t.id = some i
  sorted : m.byEvent.Sorted

theorem indexed_new (stream : String) (state : σ) : (new stream state).Indexed where
  named _ _ h := nomatch h
  typed _ _ h := nomatch h
  entered _ _ h := by simp [new] at h
  sorted := Dict.sorted_nil

/-- What is found at a position is found there in a longer list. -/
private theorem bind_concat {o : Option Nat} {ts : List (Transition σ)}
    (h : ∀ i, o = some i → ∃ u, ts[i]? = some u) (t : Transition σ) :
    o.bind ((ts ++ [t])[·]?) = o.bind (ts[·]?) := by
  cases o with
  | none => rfl
  | some i =>
      obtain ⟨u, hu⟩ := h i rfl
      exact List.getElem?_append_left (List.getElem?_eq_some_iff.mp hu).1

/-- What is found at a position is found there when another position is written. -/
private theorem bind_set {o : Option Nat} {i : Nat} (h : ∀ j, o = some j → i ≠ j)
    (ts : List (Transition σ)) (t : Transition σ) :
    o.bind ((ts.set i t)[·]?) = o.bind (ts[·]?) := by
  cases o with
  | none => rfl
  | some j => exact List.getElem?_set_ne (h j rfl)

namespace Indexed

variable {m : Machine σ}

theorem of_find? (h : m.Indexed) {id : String} {t : Transition σ} (ht : m.find? id = some t) :
    t ∈ m.transitions ∧ t.id = id := by
  obtain ⟨i, hi, hget⟩ := Option.bind_eq_some_iff.mp ht
  obtain ⟨u, hu, hid⟩ := h.named id i hi
  obtain rfl := Option.some.inj (hu.symm.trans hget)
  exact ⟨List.mem_of_getElem? hget, hid⟩

theorem find?_of_mem (h : m.Indexed) {t : Transition σ} (ht : t ∈ m.transitions) :
    m.find? t.id = some t := by
  obtain ⟨i, hi⟩ := List.mem_iff_getElem?.mp ht
  exact Option.bind_eq_some_iff.mpr ⟨i, h.entered i t hi, hi⟩

theorem of_ofEvent? (h : m.Indexed) {type : String} {t : Transition σ}
    (ht : m.ofEvent? type = some t) : t ∈ m.transitions ∧ t.eventType = type := by
  obtain ⟨i, hi, hget⟩ := Option.bind_eq_some_iff.mp ht
  obtain ⟨u, hu, htype⟩ := h.typed type i hi
  obtain rfl := Option.some.inj (hu.symm.trans hget)
  exact ⟨List.mem_of_getElem? hget, htype⟩

/-- A transition of a new identity goes to the end; any other goes to the place of the old one, whose
event type is taken out of the index. -/
theorem transition_cases (h : m.Indexed) (t : Transition σ) :
    (m.byId.get? t.id = none ∧ m.transition t = { m with
      transitions := m.transitions ++ [t]
      byId := m.byId.insert t.id m.transitions.length
      byEvent := m.byEvent.insert t.eventType m.transitions.length }) ∨
    ∃ i old, m.byId.get? t.id = some i ∧ m.transitions[i]? = some old ∧ old.id = t.id ∧
      m.transition t = { m with
        transitions := m.transitions.set i t
        byId := m.byId.insert t.id i
        byEvent := (m.byEvent.erase old.eventType).insert t.eventType i } := by
  refine (m.transition_cases t).imp_right ?_
  rintro ⟨i, hi, heq⟩
  obtain ⟨old, hold, hid⟩ := h.named t.id i hi
  refine ⟨i, old, hi, hold, hid, heq.trans ?_⟩
  unfold dropEvent
  rw [hold]

/-- By identity the transition that was given last is found. -/
theorem find?_transition (h : m.Indexed) (t : Transition σ) (id : String) :
    (m.transition t).find? id = if t.id = id then some t else m.find? id := by
  rcases h.transition_cases t with ⟨-, heq⟩ | ⟨i, old, hi, hold, hid, heq⟩
  · unfold find?
    rw [heq]
    dsimp only
    rw [Dict.get?_insert]
    by_cases hname : t.id = id
    · rw [if_pos hname, if_pos hname]
      exact List.getElem?_concat_length
    · rw [if_neg hname, if_neg hname]
      exact bind_concat (fun j hj => (h.named id j hj).imp fun _ => And.left) t
  · unfold find?
    rw [heq]
    dsimp only
    rw [Dict.get?_insert]
    by_cases hname : t.id = id
    · rw [if_pos hname, if_pos hname]
      exact List.getElem?_set_self (List.getElem?_eq_some_iff.mp hold).1
    · rw [if_neg hname, if_neg hname]
      refine bind_set (fun j hj hij => hname ?_) m.transitions t
      obtain ⟨u, hu, huid⟩ := h.named id j hj
      rw [← hij, hold] at hu
      rw [← hid, Option.some.inj hu, huid]

/-- By event type the transition that was given last is found, but none if it has replaced one of the
type. -/
theorem ofEvent?_transition (h : m.Indexed) (t : Transition σ) (type : String) :
    (m.transition t).ofEvent? type =
      if t.eventType = type then some t
      else if (m.find? t.id).map (·.eventType) = some type then none
      else m.ofEvent? type := by
  rcases h.transition_cases t with ⟨hnew, heq⟩ | ⟨i, old, hi, hold, -, heq⟩
  · have hfind : m.find? t.id = none := by
      unfold find?
      rw [hnew]
      rfl
    unfold ofEvent?
    rw [heq, hfind]
    dsimp only
    rw [Dict.get?_insert]
    by_cases htype : t.eventType = type
    · rw [if_pos htype, if_pos htype]
      exact List.getElem?_concat_length
    · rw [if_neg htype, if_neg htype, if_neg (by simp)]
      exact bind_concat (fun j hj => (h.typed type j hj).imp fun _ => And.left) t
  · have hfind : m.find? t.id = some old := Option.bind_eq_some_iff.mpr ⟨i, hi, hold⟩
    unfold ofEvent?
    rw [heq, hfind]
    dsimp only
    rw [Dict.get?_insert, Option.map_some]
    by_cases htype : t.eventType = type
    · rw [if_pos htype, if_pos htype]
      exact List.getElem?_set_self (List.getElem?_eq_some_iff.mp hold).1
    rw [if_neg htype, if_neg htype]
    by_cases hgone : old.eventType = type
    · rw [if_pos (by rw [hgone]), hgone, h.sorted.get?_erase_self]
      rfl
    · rw [if_neg (by simpa using hgone), Dict.get?_erase_of_ne _ hgone]
      refine bind_set (fun j hj hij => hgone ?_) m.transitions t
      obtain ⟨u, hu, hutype⟩ := h.typed type j hj
      rw [← hij, hold] at hu
      rw [Option.some.inj hu, hutype]

/-- A transition of a new identity at the end. -/
theorem appended (h : m.Indexed) {t : Transition σ} (hnew : m.byId.get? t.id = none) :
    Indexed { m with
      transitions := m.transitions ++ [t]
      byId := m.byId.insert t.id m.transitions.length
      byEvent := m.byEvent.insert t.eventType m.transitions.length } := by
  have hlast : (m.transitions ++ [t])[m.transitions.length]? = some t :=
    List.getElem?_concat_length
  have hkept : ∀ {j u}, m.transitions[j]? = some u → (m.transitions ++ [t])[j]? = some u :=
    fun hu => (List.getElem?_append_left (List.getElem?_eq_some_iff.mp hu).1).trans hu
  refine ⟨fun id j hj => ?_, fun type j hj => ?_, fun j u hu => ?_, h.sorted.insert _ _⟩
  · dsimp only at hj ⊢
    rw [Dict.get?_insert] at hj
    split at hj
    · rename_i hname
      cases hj
      exact ⟨t, hlast, hname⟩
    · obtain ⟨u, hu, huid⟩ := h.named id j hj
      exact ⟨u, hkept hu, huid⟩
  · dsimp only at hj ⊢
    rw [Dict.get?_insert] at hj
    split at hj
    · rename_i htype
      cases hj
      exact ⟨t, hlast, htype⟩
    · obtain ⟨u, hu, hutype⟩ := h.typed type j hj
      exact ⟨u, hkept hu, hutype⟩
  · dsimp only at hu ⊢
    rw [Dict.get?_insert]
    by_cases hlt : j < m.transitions.length
    · rw [List.getElem?_append_left hlt] at hu
      have hj := h.entered j u hu
      rw [if_neg fun hname => ?_, hj]
      rw [hname, hj] at hnew
      cases hnew
    · obtain ⟨hjlt, -⟩ := List.getElem?_eq_some_iff.mp hu
      rw [List.length_append, List.length_singleton] at hjlt
      obtain rfl : j = m.transitions.length := by omega
      obtain rfl : t = u := Option.some.inj (hlast.symm.trans hu)
      exact if_pos rfl

/-- A transition in the place of the one that has its identity. -/
theorem replaced (h : m.Indexed) {t old : Transition σ} {i : Nat}
    (hi : m.byId.get? t.id = some i) (hold : m.transitions[i]? = some old) (hid : old.id = t.id) :
    Indexed { m with
      transitions := m.transitions.set i t
      byId := m.byId.insert t.id i
      byEvent := (m.byEvent.erase old.eventType).insert t.eventType i } := by
  have hplace : (m.transitions.set i t)[i]? = some t :=
    List.getElem?_set_self (List.getElem?_eq_some_iff.mp hold).1
  have hkept : ∀ {j u}, i ≠ j → m.transitions[j]? = some u →
      (m.transitions.set i t)[j]? = some u := fun hne hu => (List.getElem?_set_ne hne).trans hu
  refine ⟨fun id j hj => ?_, fun type j hj => ?_, fun j u hu => ?_, (h.sorted.erase _).insert _ _⟩
  · dsimp only at hj ⊢
    rw [Dict.get?_insert] at hj
    split at hj
    · rename_i hname
      cases hj
      exact ⟨t, hplace, hname⟩
    · rename_i hname
      obtain ⟨u, hu, huid⟩ := h.named id j hj
      refine ⟨u, hkept (fun hij => hname ?_) hu, huid⟩
      rw [← hij, hold] at hu
      rw [← hid, Option.some.inj hu, huid]
  · dsimp only at hj ⊢
    rw [Dict.get?_insert] at hj
    split at hj
    · rename_i htype
      cases hj
      exact ⟨t, hplace, htype⟩
    · -- an entry that is left is not that of the old transition
      have hother : old.eventType ≠ type := fun hgone => by
        rw [hgone, h.sorted.get?_erase_self] at hj
        cases hj
      rw [Dict.get?_erase_of_ne _ hother] at hj
      obtain ⟨u, hu, hutype⟩ := h.typed type j hj
      refine ⟨u, hkept (fun hij => hother ?_) hu, hutype⟩
      rw [← hij, hold] at hu
      rw [Option.some.inj hu, hutype]
  · dsimp only at hu ⊢
    rw [Dict.get?_insert]
    by_cases hij : i = j
    · subst hij
      obtain rfl : t = u := Option.some.inj (hplace.symm.trans hu)
      exact if_pos rfl
    · rw [List.getElem?_set_ne hij] at hu
      have hj := h.entered j u hu
      rw [if_neg fun hname => hij ?_, hj]
      rw [hname, hj] at hi
      exact (Option.some.inj hi).symm

theorem transition (h : m.Indexed) (t : Transition σ) : (m.transition t).Indexed := by
  rcases h.transition_cases t with ⟨hnew, heq⟩ | ⟨i, old, hi, hold, hid, heq⟩
  · exact heq ▸ h.appended hnew
  · exact heq ▸ h.replaced hi hold hid

end Indexed

/-! ### What the indexes hold -/

/-- The transition that an act gives to a machine. -/
def Act.transition? : Act σ → Option (Transition σ)
  | .transition t => some t
  | _ => none

/-- The transitions that acts give, in their order. -/
def Act.given (acts : List (Act σ)) : List (Transition σ) :=
  acts.filterMap Act.transition?

/-- The indexes find what was given: by identity the last one, and by event type the last one, unless the
type was withdrawn. -/
structure Filed (m : Machine σ) (given : List (Transition σ)) : Prop extends Indexed m where
  find : ∀ id, m.find? id = latest given (·.id == id)
  event : ∀ type t, m.ofEvent? type = some t ↔
    latest given (·.eventType == type) = some t ∧ ¬ Withdrawn given type

theorem filed_new (stream : String) (state : σ) : (new stream state).Filed [] where
  toIndexed := indexed_new stream state
  find _ := rfl
  event _ _ := ⟨(nomatch ·), fun ⟨h, _⟩ => nomatch h⟩

namespace Filed

variable {m : Machine σ} {known : List (Transition σ)}

theorem transition (h : m.Filed known) (t : Transition σ) :
    (m.transition t).Filed (known ++ [t]) where
  toIndexed := h.toIndexed.transition t
  find id := by
    rw [h.toIndexed.find?_transition, latest_snoc, h.find id]
    simp only [beq_iff_eq]
  event type u := by
    rw [h.toIndexed.ofEvent?_transition, latest_snoc, withdrawn_snoc, h.find t.id]
    by_cases htype : t.eventType = type
    · simp [htype]
    simp only [htype, beq_iff_eq, if_false, ne_eq, not_false_eq_true, true_and, not_or]
    by_cases hgone : (latest known (·.id == t.id)).map (·.eventType) = some type
    · rw [if_pos hgone]
      obtain ⟨old, hold, holdtype⟩ := Option.map_eq_some_iff.mp hgone
      exact ⟨(nomatch ·), fun ⟨_, _, hkept⟩ => absurd ⟨old, hold, holdtype⟩ hkept⟩
    · rw [if_neg hgone, h.event type u]
      exact ⟨fun ⟨hlast, hw⟩ => ⟨hlast, hw, fun ⟨old, hold, holdtype⟩ =>
        hgone (Option.map_eq_some_iff.mpr ⟨old, hold, holdtype⟩)⟩, fun ⟨hlast, hw, _⟩ => ⟨hlast, hw⟩⟩

/-- Only transitions and indexes matter. -/
theorem of_same {m' : Machine σ} (h : m.Filed known) (htransitions : m'.transitions = m.transitions)
    (hid : m'.byId = m.byId) (hevent : m'.byEvent = m.byEvent) : m'.Filed known := by
  cases m'
  cases htransitions
  cases hid
  cases hevent
  exact ⟨⟨h.named, h.typed, h.entered, h.sorted⟩, h.find, h.event⟩

theorem act (h : m.Filed known) (a : Act σ) : (m.act a).Filed (known ++ Act.given [a]) := by
  cases a with
  | transition t => exact h.transition t
  | place name tokens => exact (List.append_nil known).symm ▸ h.of_same rfl rfl rfl
  | on eventType handler => exact (List.append_nil known).symm ▸ h.of_same rfl rfl rfl
  | apply e =>
      obtain ⟨state, places, version, hframe⟩ := m.apply_frame e
      show (m.apply e).2.Filed (known ++ [])
      rw [hframe, List.append_nil]
      exact h.of_same rfl rfl rfl

theorem after (h : m.Filed known) (acts : List (Act σ)) :
    (m.after acts).Filed (known ++ Act.given acts) := by
  induction acts generalizing m known with
  | nil => exact (List.append_nil known).symm ▸ h
  | cons a rest ih =>
      have hnext := ih (h.act a)
      rwa [List.append_assoc, Act.given, Act.given, ← List.filterMap_append] at hnext

/-- The transitions of a machine are among those that it was given. -/
theorem mem_given (h : m.Filed known) {t : Transition σ} (ht : t ∈ m.transitions) : t ∈ known :=
  (mem_of_latest ((h.find t.id).symm.trans (h.find?_of_mem ht))).1

end Filed

/-! ### Event types that lead to their transition -/

/-- Transitions of one event type have one identity. -/
def OwnTypes (given : List (Transition σ)) : Prop :=
  ∀ t ∈ given, ∀ u ∈ given, t.eventType = u.eventType → t.id = u.id

/-- The last one that passes a test is the last one that passes a narrower test, if it does. -/
theorem latest_narrower {given : List (Transition σ)} {p q : Transition σ → Bool}
    (hqp : ∀ u ∈ given, q u = true → p u = true) {t : Transition σ}
    (ht : latest given p = some t) (hqt : q t = true) : latest given q = some t := by
  induction given using List.reverseRecOn with
  | nil => exact ht
  | append_singleton given u ih =>
      rw [latest_snoc] at ht ⊢
      by_cases hpu : p u = true
      · rw [if_pos hpu] at ht
        obtain rfl := Option.some.inj ht
        exact if_pos hqt
      · rw [if_neg hpu] at ht
        rw [if_neg fun hqu => hpu (hqp u (List.mem_append_right _ List.mem_cons_self) hqu)]
        exact ih (fun v hv => hqp v (List.mem_append_left _ hv)) ht

theorem exists_latest {given : List (Transition σ)} {p : Transition σ → Bool} {t : Transition σ}
    (ht : t ∈ given) (hp : p t = true) : ∃ u, latest given p = some u :=
  Option.ne_none_iff_exists'.mp fun hnone =>
    List.ne_nil_of_mem (List.mem_filter.mpr ⟨ht, hp⟩) (List.getLast?_eq_none_iff.mp hnone)

/-- A type that belongs to one identity is not withdrawn while the last transition of that identity has
it. -/
theorem OwnTypes.not_withdrawn {given : List (Transition σ)} (hown : OwnTypes given)
    {t : Transition σ} (ht : latest given (·.id == t.id) = some t) :
    ¬ Withdrawn given t.eventType := by
  rintro ⟨before, u, after, old, rfl, hold, htype, hothers⟩
  obtain ⟨hmem, hid⟩ := mem_of_latest hold
  have hsame : u.id = t.id := by
    rw [← hown old (List.mem_append_left _ hmem) t (mem_of_latest ht).1 htype]
    exact (beq_iff_eq.mp hid).symm
  exact hothers t (mem_of_latest_append ht ⟨u, List.mem_cons_self, beq_iff_eq.mpr hsame⟩) rfl

/-- Where no type is shared, every transition is found by its type. -/
theorem Filed.distinguishes {m : Machine σ} {known : List (Transition σ)} (h : m.Filed known)
    (hown : OwnTypes known) : m.Distinguishes := by
  intro id t ht
  obtain ⟨-, rfl⟩ := h.of_find? ht
  have hlast : latest known (·.id == t.id) = some t := (h.find t.id).symm.trans ht
  refine (h.event t.eventType t).mpr ⟨?_, hown.not_withdrawn hlast⟩
  exact latest_narrower (fun u hu htype => beq_iff_eq.mpr
    (hown u hu t (mem_of_latest hlast).1 (beq_iff_eq.mp htype))) hlast (beq_self_eq_true _)

/-- Where the event types of a machine lead, given the transitions that were given to it. -/
structure Resolves (m : Machine σ) (given : List (Transition σ)) : Prop where
  /-- What a type leads to has this type. -/
  declares : ∀ type t, m.ofEvent? type = some t → t ∈ m.transitions ∧ t.eventType = type
  /-- A type of a transition leads somewhere unless it was withdrawn. -/
  leads_iff : ∀ t ∈ m.transitions,
    (∃ u, m.ofEvent? t.eventType = some u) ↔ ¬ Withdrawn given t.eventType
  /-- Events of a withdrawn type can only be handled. -/
  withdrawn : ∀ type, Withdrawn given type → ∀ e : Event, e.type = type →
    m.apply e = if m.handlers.contains type then m.finish e m.places
      else (.error (.eventUnknown type), m)
  /-- A type that no two identities share leads to its own transition. -/
  own : OwnTypes given → ∀ t ∈ m.transitions, m.ofEvent? t.eventType = some t

theorem Filed.resolves {m : Machine σ} {known : List (Transition σ)} (h : m.Filed known) :
    m.Resolves known where
  declares _ _ ht := h.of_ofEvent? ht
  leads_iff t ht := by
    obtain ⟨u, hu⟩ := exists_latest (p := (·.eventType == t.eventType)) (h.mem_given ht)
      (beq_self_eq_true t.eventType)
    exact ⟨fun ⟨v, hv⟩ => ((h.event t.eventType v).mp hv).2,
      fun hw => ⟨u, (h.event t.eventType u).mpr ⟨hu, hw⟩⟩⟩
  withdrawn type hw e he := by
    have hnone : m.ofEvent? e.type = none := Option.eq_none_iff_forall_ne_some.mpr fun t ht =>
      ((h.event e.type t).mp ht).2 (he ▸ hw)
    unfold apply
    rw [hnone, he]
  own hown t ht := h.distinguishes hown t.id t (h.find?_of_mem ht)

/-- **An event type leads to a transition of its type unless it was withdrawn.**  Whatever was done with a
machine, a type leads only to transitions that have it.  The type of a transition leads nowhere exactly
if a transition of this type was replaced by one of another type and none of the type was given since. -/
theorem resolves_unless_withdrawn (stream : String) (state : σ) (acts : List (Act σ)) :
    ((new stream state).after acts).Resolves (Act.given acts) :=
  ((filed_new stream state).after acts).resolves

/-! #### A type that two transitions share -/

/-- A way from here to there. -/
def way (id type : String) : Transition Unit :=
  ⟨id, type, [("here", 1)], [("there", 1)], [], none⟩

/-- Two ways of one event type, and then one of them gets another type. -/
def wayActs : List (Act Unit) :=
  [.place "here" 1, .place "there" 0, .transition (way "north" "Moved"),
    .transition (way "south" "Moved"), .transition (way "north" "Climbed")]

/-- The other way is still in the machine and fires, but its event leads nowhere. -/
theorem shared_type_withdrawn :
    way "south" "Moved" ∈ ((new "walk" ()).after wayActs).transitions ∧
      ((new "walk" ()).after wayActs).ofEvent? "Moved" = none ∧
      ∃ e, ((new "walk" ()).after wayActs).fire ⟨⟨1⟩, ⟨0, 0⟩⟩ "south" .null = .ok e ∧
        (((new "walk" ()).after wayActs).apply e).1 = .error (.eventUnknown "Moved") :=
  ⟨List.mem_cons_of_mem _ List.mem_cons_self, rfl, _, rfl, rfl⟩

end EventNet.Machine
