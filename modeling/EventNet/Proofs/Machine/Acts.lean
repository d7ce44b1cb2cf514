import EventNet.Machine.Fields
import EventNet.Proofs.Machine.Tokens

/-!
Machines as they come about.

A machine is given places, transitions and handlers and has events applied to it, in any order (`Act`).
The events need not have been fired by the machine, or by any machine.  Where no place starts below zero,
no transition moves a negative number and handlers leave the user state alone when they fail, every act
keeps it so (`Sound.act`), and applying any event either does all of its work or none of it.

Nothing looks at how much a place can hold.  What an event makes of a place wraps around if it does not fit
64 bits, and in this way, and in no other, a place comes to hold less than nothing (`Sound.nonneg_iff`).

A handler may also remember what its user cannot see, such as that it has failed before.  So the user
state is looked at through a `view`, and a handler that fails has to leave alone only what is seen.
-/

namespace EventNet

variable {σ τ : Type}

/-- A handler that leaves what is seen of the user state alone when it fails. -/
def Handler.Careful (handler : Handler σ) (view : σ → τ) : Prop :=
  ∀ u e f u', handler u e = (.error f, u') → view u' = view u

/-- A transition that moves no negative numbers, and gives none that does not fit 64 bits. -/
structure Transition.Fair (t : Transition σ) : Prop where
  takes : ∀ q ∈ t.inputs, 0 ≤ q.2
  gives : ∀ q ∈ t.outputs, 0 ≤ q.2 ∧ Word.Fits q.2

namespace Machine

/-- What is done with a machine. -/
inductive Act (σ : Type) where
  | place (name : String) (tokens : Int)
  | transition (t : Transition σ)
  | on (eventType : String) (handler : Handler σ)
  | apply (e : Event)

/-- A machine after an act. -/
def act (m : Machine σ) : Act σ → Machine σ
  | .place name tokens => m.place name tokens
  | .transition t => m.transition t
  | .on eventType handler => m.on eventType handler
  | .apply e => (m.apply e).2

/-- A machine after some acts. -/
def after (m : Machine σ) (acts : List (Act σ)) : Machine σ :=
  acts.foldl act m

/-- An act that keeps a machine in order: the tokens of a place fit 64 bits, and the inputs and outputs of
a transition name each place once. -/
def Act.Orderly : Act σ → Prop
  | .place _ tokens => Word.Fits tokens
  | .transition t => t.inputs.Sorted ∧ t.outputs.Sorted
  | .on _ _ => True
  | .apply _ => True

/-- An act without negative tokens: no place starts below zero, no transition moves a negative number, and
a handler leaves what is seen of the user state alone when it fails. -/
def Act.Fair (view : σ → τ) : Act σ → Prop
  | .place _ tokens => 0 ≤ tokens ∧ Word.Fits tokens
  | .transition t => t.inputs.Sorted ∧ t.outputs.Sorted ∧ t.Fair
  | .on _ handler => handler.Careful view
  | .apply _ => True

theorem Act.Fair.orderly {view : σ → τ} {a : Act σ} (ha : a.Fair view) : a.Orderly := by
  cases a with
  | place name tokens => exact ha.2
  | transition t => exact ⟨ha.1, ha.2.1⟩
  | on eventType handler => trivial
  | apply e => trivial

/-! ### What an act changes -/

/-- A transition is added at the end of the list, or put in place of the one that has its identity. -/
theorem transition_cases (m : Machine σ) (t : Transition σ) :
    (m.byId.get? t.id = none ∧ m.transition t = { m with
      transitions := m.transitions ++ [t]
      byId := m.byId.insert t.id m.transitions.length
      byEvent := m.byEvent.insert t.eventType m.transitions.length }) ∨
    ∃ i, m.byId.get? t.id = some i ∧ m.transition t = { m with
      transitions := m.transitions.set i t
      byId := m.byId.insert t.id i
      byEvent := (m.dropEvent i).byEvent.insert t.eventType i } := by
  unfold transition
  cases hi : m.byId.get? t.id with
  | none => exact Or.inl ⟨rfl, rfl⟩
  | some i =>
      refine Or.inr ⟨i, rfl, ?_⟩
      obtain ⟨byEvent, hdrop⟩ : ∃ byEvent, m.dropEvent i = { m with byEvent } := by
        unfold dropEvent
        split
        · exact ⟨_, rfl⟩
        · exact ⟨m.byEvent, rfl⟩
      show enter { m.dropEvent i with transitions := (m.dropEvent i).transitions.set i t } t i = _
      rw [hdrop]
      rfl

theorem mem_transitions {m : Machine σ} {t u : Transition σ}
    (h : u ∈ (m.transition t).transitions) : u = t ∨ u ∈ m.transitions := by
  rcases m.transition_cases t with ⟨-, heq⟩ | ⟨i, -, heq⟩
  · rw [heq] at h
    exact (List.mem_append.mp h).symm.imp_left List.mem_singleton.mp
  · rw [heq] at h
    exact (List.mem_or_eq_of_mem_set h).symm

theorem transition_frame (m : Machine σ) (t : Transition σ) :
    (m.transition t).places = m.places ∧ (m.transition t).handlers = m.handlers := by
  rcases m.transition_cases t with ⟨-, heq⟩ | ⟨i, -, heq⟩ <;> exact ⟨by rw [heq], by rw [heq]⟩

/-- An event changes nothing but the user state, the places and the version. -/
theorem apply_frame (m : Machine σ) (e : Event) :
    ∃ state places version, (m.apply e).2 = { m with state, places, version } := by
  have hfinish : ∀ places, ∃ state places' version,
      (m.finish e places).2 = { m with state, places := places', version } := fun places => by
    rcases m.finish_cases e places with ⟨f, -, heq⟩ | ⟨-, heq⟩
    · exact ⟨_, m.places, m.version, by rw [heq]⟩
    · exact ⟨_, _, _, by rw [heq]⟩
  unfold apply
  split
  · split
    · exact hfinish m.places
    · exact ⟨m.state, m.places, m.version, rfl⟩
  · split
    · exact ⟨m.state, m.places, m.version, rfl⟩
    · exact hfinish _

variable {m : Machine σ} {view : σ → τ}

theorem careful_handle (h : ∀ entry ∈ m.handlers, entry.2.Careful view) {e : Event} {f : Fault}
    (hf : (m.handle e).1 = .error f) : view (m.handle e).2 = view m.state := by
  unfold handle at hf ⊢
  cases hhandler : m.handlers.get? e.type with
  | none => rfl
  | some handler =>
      rw [hhandler] at hf
      exact h _ (Dict.mem_of_get? hhandler) m.state e f _ (Prod.ext hf rfl)

/-! ### What acts keep -/

theorem orderly_new (stream : String) (state : σ) : (new stream state).Orderly where
  transitions _ ht := absurd ht List.not_mem_nil
  places _ he := absurd he List.not_mem_nil

theorem Orderly.apply (h : m.Orderly) (e : Event) : (m.apply e).2.Orderly := by
  obtain ⟨state, places, version, hframe⟩ := m.apply_frame e
  have hplaces : ∀ entry ∈ (m.apply e).2.places, Word.Fits entry.2 := by
    rcases h.apply_cases e with ⟨-, -, places, happly, hfit, -⟩ | ⟨-, f, happly⟩
    · rw [happly]
      rcases m.finish_cases e places with ⟨f, -, heq⟩ | ⟨-, heq⟩
      · rw [heq]
        exact h.places
      · rw [heq]
        exact hfit
    · rw [happly]
      exact h.places
  rw [hframe] at hplaces ⊢
  exact ⟨h.transitions, hplaces⟩

theorem Orderly.act (h : m.Orderly) {a : Act σ} (ha : a.Orderly) : (m.act a).Orderly := by
  cases a with
  | place name tokens => exact ⟨h.transitions, Dict.forall_mem_insert h.places name ha⟩
  | transition t =>
      refine ⟨fun u hu => ?_, fun entry hentry => ?_⟩
      · rcases mem_transitions hu with rfl | hu
        · exact ha
        · exact h.transitions u hu
      · exact h.places entry ((m.transition_frame t).1 ▸ hentry)
  | on eventType handler => exact ⟨h.transitions, h.places⟩
  | apply e => exact h.apply e

theorem Orderly.after (h : m.Orderly) {acts : List (Act σ)} (hacts : ∀ a ∈ acts, a.Orderly) :
    (m.after acts).Orderly := by
  induction acts generalizing m with
  | nil => exact h
  | cons a rest ih =>
      obtain ⟨ha, hrest⟩ := List.forall_mem_cons.mp hacts
      exact ih (h.act ha) hrest

/-- A machine in order whose transitions move no negative numbers, and whose handlers leave what is seen of
the user state alone when they fail. -/
structure Sound (m : Machine σ) (view : σ → τ) : Prop where
  orderly : m.Orderly
  fair : ∀ t ∈ m.transitions, t.Fair
  careful : ∀ entry ∈ m.handlers, entry.2.Careful view

theorem sound_new (stream : String) (state : σ) : (new stream state).Sound view where
  orderly := orderly_new stream state
  fair _ ht := absurd ht List.not_mem_nil
  careful _ hentry := absurd hentry List.not_mem_nil

theorem Sound.act (h : m.Sound view) {a : Act σ} (ha : a.Fair view) : (m.act a).Sound view := by
  have horderly := h.orderly.act ha.orderly
  cases a with
  | place name tokens => exact ⟨horderly, h.fair, h.careful⟩
  | transition t =>
      refine ⟨horderly, fun u hu => ?_, fun entry hentry => ?_⟩
      · rcases mem_transitions hu with rfl | hu
        · exact ha.2.2
        · exact h.fair u hu
      · exact h.careful entry ((m.transition_frame t).2 ▸ hentry)
  | on eventType handler =>
      refine ⟨horderly, h.fair, fun entry hentry => ?_⟩
      rcases Dict.mem_insert hentry with rfl | hold
      · exact ha
      · exact h.careful entry hold
  | apply e =>
      obtain ⟨state, places, version, hframe⟩ := m.apply_frame e
      show (m.apply e).2.Sound view
      have horderly : (m.apply e).2.Orderly := horderly
      rw [hframe] at horderly ⊢
      exact ⟨horderly, h.fair, h.careful⟩

theorem Sound.after (h : m.Sound view) {acts : List (Act σ)} (hacts : ∀ a ∈ acts, a.Fair view) :
    (m.after acts).Sound view := by
  induction acts generalizing m with
  | nil => exact h
  | cons a rest ih =>
      obtain ⟨ha, hrest⟩ := List.forall_mem_cons.mp hacts
      exact ih (h.act ha) hrest

/-! ### Places that hold nothing negative -/

/-- No place holds less than nothing. -/
def Nonneg (m : Machine σ) : Prop :=
  ∀ place, 0 ≤ m.tokens place

/-- What an event of a type makes of every place fits 64 bits. -/
def Holds (m : Machine σ) (type : String) : Prop :=
  ∀ place, Word.Fits (m.tokens place + m.change type place)

/-- Where an event has its tokens, a place is left with no less than nothing, and with less than it would
take to come round to a count again. -/
theorem Sound.change_bounds (h : m.Sound view) (hm : m.Nonneg) {type : String}
    (henough : m.Enough m.tokens type) (place : String) :
    0 ≤ m.tokens place + m.change type place ∧
      m.tokens place + m.change type place < Word.size := by
  have htokens := hm place
  have hfits : Word.Fits (m.tokens place) := fits_count h.orderly.places place
  unfold Word.Fits Double.minInt64 Double.maxInt64 at hfits
  unfold Word.size
  cases ht : m.ofEvent? type with
  | none =>
      rw [change_of_none ht]
      omega
  | some t =>
      obtain ⟨htakes, hgives⟩ := h.fair t (mem_of_ofEvent? ht)
      have hgiven : 0 ≤ count t.outputs place ∧ Word.Fits (count t.outputs place) :=
        Dict.getD_of_forall (P := fun n => 0 ≤ n ∧ Word.Fits n) hgives
          ⟨Int.le_refl 0, Word.fits_zero⟩ place
      have htaken : 0 ≤ count t.inputs place :=
        Dict.getD_of_forall (P := (0 ≤ ·)) htakes (Int.le_refl 0) place
      have hthere : count t.inputs place ≤ m.tokens place := by
        unfold count
        cases hn : t.inputs.get? place with
        | none => exact htokens
        | some n => exact henough t ht _ (Dict.mem_of_get? hn)
      unfold Word.Fits Double.minInt64 Double.maxInt64 at hgiven
      rw [change_of_some ht]
      omega

/-- An event leaves a place with less than nothing exactly if what it makes of it does not fit 64 bits. -/
theorem Sound.nonneg_iff (h : m.Sound view) (hm : m.Nonneg) {e : Event} {m' : Machine σ}
    (hok : m.apply e = (.ok (), m')) (place : String) :
    0 ≤ m'.tokens place ↔ Word.Fits (m.tokens place + m.change e.type place) := by
  rcases h.orderly.apply_cases e with ⟨-, henough, places, happly, -, hcount, -⟩ | ⟨-, f, happly⟩
  · obtain ⟨hlow, hhigh⟩ := h.change_bounds hm henough place
    rw [← Word.wrap_nonneg_iff hlow hhigh, ← hcount]
    rcases m.finish_cases e places with ⟨f, -, heq⟩ | ⟨-, heq⟩
    · cases (happly.trans heq).symm.trans hok
    · cases (happly.trans heq).symm.trans hok
      exact Iff.rfl
  · cases happly.symm.trans hok

/-- What becomes of an event that is applied to a machine. -/
structure Settles (m : Machine σ) (view : σ → τ) (e : Event) : Prop where
  /-- It is applied if its type is known, its inputs are there and its handler does not fail. -/
  applied_iff : (∃ m', m.apply e = (.ok (), m')) ↔
    m.Knows e.type ∧ m.Enough m.tokens e.type ∧ (m.handle e).1 = .ok ()
  refused : ∀ f m', m.apply e = (.error f, m') →
    m'.places = m.places ∧ view m'.state = view m.state ∧ m'.version = m.version
  applied : ∀ m', m.apply e = (.ok (), m') →
    m'.version = e.version ∧ m'.state = (m.handle e).2 ∧
      (∀ t, m.ofEvent? e.type = some t → ∀ place, Word.IsSum (m'.tokens place)
        (m.tokens place - count t.inputs place + count t.outputs place)) ∧
      (m.ofEvent? e.type = none → m'.places = m.places)
  /-- A place that held nothing negative does so afterwards if what it gets fits 64 bits, and only then. -/
  nonneg_iff : m.Nonneg → ∀ m', m.apply e = (.ok (), m') → ∀ place,
    0 ≤ m'.tokens place ↔ Word.Fits (m.tokens place + m.change e.type place)

theorem Sound.settles (h : m.Sound view) (e : Event) : m.Settles view e := by
  have hnonneg : m.Nonneg → ∀ m', m.apply e = (.ok (), m') → ∀ place,
      0 ≤ m'.tokens place ↔ Word.Fits (m.tokens place + m.change e.type place) :=
    fun hm m' hok place => h.nonneg_iff hm hok place
  rcases h.orderly.apply_cases e with
    ⟨hknows, henough, places, happly, -, hcount, hsame⟩ | ⟨hlack, f, happly⟩
  · rcases m.finish_cases e places with ⟨f, hf, heq⟩ | ⟨hhandle, heq⟩
    · rw [heq] at happly
      refine ⟨⟨fun ⟨m', hok⟩ => ?_, fun ⟨_, _, hhandle⟩ => ?_⟩, fun f' m' hm' => ?_, fun m' hok => ?_,
        hnonneg⟩
      · cases happly.symm.trans hok
      · cases hhandle.symm.trans hf
      · cases happly.symm.trans hm'
        exact ⟨rfl, careful_handle h.careful hf, rfl⟩
      · cases happly.symm.trans hok
    · rw [heq] at happly
      refine ⟨⟨fun _ => ⟨hknows, henough, hhandle⟩, fun _ => ⟨_, happly⟩⟩, fun f' m' hm' => ?_,
        fun m' hok => ?_, hnonneg⟩
      · cases happly.symm.trans hm'
      · cases happly.symm.trans hok
        refine ⟨rfl, rfl, fun t ht place => ?_, hsame⟩
        show Word.IsSum (count places place) _
        rw [hcount place, ← add_change ht]
        exact Word.isSum_wrap _
  · refine ⟨⟨fun ⟨m', hok⟩ => ?_, fun ⟨hknows, henough, _⟩ => absurd ⟨hknows, henough⟩ hlack⟩,
      fun f' m' hm' => ?_, fun m' hok => ?_, hnonneg⟩
    · cases happly.symm.trans hok
    · cases happly.symm.trans hm'
      exact ⟨rfl, rfl, rfl⟩
    · cases happly.symm.trans hok

end Machine

end EventNet
