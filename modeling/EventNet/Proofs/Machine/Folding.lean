import EventNet.Machine.Stream
import EventNet.Proofs.Dict

/-!
A machine as a fold over a stream.

A machine that applies the events of a stream one after the other is, wherever it stops, what the events
up to its version make of a fresh one.  For that its handlers have to leave the user state alone when
they fail; then a failed event leaves no trace, and the machine can go on with the same event later.
-/

namespace EventNet.Machine

variable {σ : Type}

/-- A machine whose handlers leave the user state alone when they fail. -/
def Careful (m : Machine σ) : Prop :=
  ∀ entry ∈ m.handlers, ∀ u e f u', entry.2 u e = (.error f, u') → u' = u

variable {m m' : Machine σ}

theorem Careful.handle (h : m.Careful) {e : Event} {f : Fault} {u : σ}
    (hf : m.handle e = (.error f, u)) : u = m.state := by
  unfold Machine.handle at hf
  cases hhandler : m.handlers.get? e.type with
  | none =>
      rw [hhandler] at hf
      cases hf
  | some handler =>
      rw [hhandler] at hf
      exact h _ (Dict.mem_of_get? hhandler) m.state e f u hf

/-- What finishing an event does: its handler runs, and places and version follow if that succeeds. -/
theorem finish_cases (m : Machine σ) (e : Event) (places : Dict Int) :
    (∃ f, (m.handle e).1 = .error f ∧
      m.finish e places = (.error f, { m with state := (m.handle e).2 })) ∨
    ((m.handle e).1 = .ok () ∧ m.finish e places =
      (.ok (), { m with state := (m.handle e).2, places, version := e.version })) := by
  unfold finish
  rcases m.handle e with ⟨f | ⟨⟩, state⟩
  · exact Or.inl ⟨f, rfl, rfl⟩
  · exact Or.inr ⟨rfl, rfl⟩

/-- A careful machine fails to finish an event without effect, or goes on to the event's version. -/
theorem Careful.finish_cases (h : m.Careful) (e : Event) (places : Dict Int) :
    (∃ f, m.finish e places = (.error f, m)) ∨
      ∃ state, m.finish e places = (.ok (), { m with state, places, version := e.version }) := by
  rcases m.finish_cases e places with ⟨f, hf, heq⟩ | ⟨-, heq⟩
  · have hstate : (m.handle e).2 = m.state := h.handle (Prod.ext hf rfl)
    rw [hstate] at heq
    exact Or.inl ⟨f, heq⟩
  · exact Or.inr ⟨_, heq⟩

theorem Careful.apply_cases (h : m.Careful) (e : Event) :
    (∃ f, m.apply e = (.error f, m)) ∨
      ∃ places state, m.apply e = (.ok (), { m with state, places, version := e.version }) := by
  unfold apply
  split
  · split
    · exact (h.finish_cases e m.places).imp_right fun ⟨state, heq⟩ => ⟨_, state, heq⟩
    · exact Or.inl ⟨_, rfl⟩
  · split
    · exact Or.inl ⟨_, rfl⟩
    · exact (h.finish_cases e _).imp_right fun ⟨state, heq⟩ => ⟨_, state, heq⟩

theorem applyAll_cons_ok {e : Event} (h : m.apply e = (.ok (), m')) (rest : List Event) :
    m.applyAll (e :: rest) = m'.applyAll rest := by
  simp only [applyAll, h]

theorem applyAll_append {xs : List Event} (h : m.applyAll xs = (.ok (), m')) (ys : List Event) :
    m.applyAll (xs ++ ys) = m'.applyAll ys := by
  induction xs generalizing m with
  | nil =>
      cases h
      rfl
  | cons e rest ih =>
      rcases happly : m.apply e with ⟨f | ⟨⟩, m₁⟩
      · simp only [applyAll, happly] at h
        cases h
      · rw [applyAll_cons_ok happly] at h
        rw [List.cons_append, applyAll_cons_ok happly]
        exact ih h

/-- One machine has come from another by applying events: stream and handlers are the same, and the
version is that of the last event. -/
structure Advanced (m m' : Machine σ) (events : List Event) : Prop where
  applied : m.applyAll events = (.ok (), m')
  stream : m'.stream = m.stream
  careful : m'.Careful
  version : m'.version = (events.getLast?.map (·.version)).getD m.version

/-- A careful machine applies events up to the first that fails, and that one leaves no trace. -/
theorem Careful.applyAll_cases (h : m.Careful) (events : List Event) :
    ∃ k m', k ≤ events.length ∧ Advanced m m' (events.take k) ∧
      ((m.applyAll events = (.ok (), m') ∧ k = events.length) ∨
        ∃ f, m.applyAll events = (.error f, m')) := by
  induction events generalizing m with
  | nil => exact ⟨0, m, Nat.le_refl 0, ⟨rfl, rfl, h, rfl⟩, Or.inl ⟨rfl, rfl⟩⟩
  | cons e rest ih =>
      rcases h.apply_cases e with ⟨f, heq⟩ | ⟨places, state, heq⟩
      · refine ⟨0, m, Nat.zero_le _, ⟨rfl, rfl, h, rfl⟩, Or.inr ⟨f, ?_⟩⟩
        simp only [applyAll, heq]
      · have hnext : Careful { m with state, places, version := e.version } := h
        obtain ⟨k, m', hk, hadvanced, hresult⟩ := ih hnext
        refine ⟨k + 1, m', Nat.succ_le_succ hk, ⟨?_, hadvanced.stream, hadvanced.careful, ?_⟩, ?_⟩
        · rw [List.take_succ_cons, applyAll_cons_ok heq, hadvanced.applied]
        · rw [List.take_succ_cons, hadvanced.version, List.getLast?_cons]
          cases (rest.take k).getLast? <;> rfl
        · rw [applyAll_cons_ok heq]
          exact hresult.imp_left fun ⟨hok, hlength⟩ => ⟨hok, congrArg Nat.succ hlength⟩

/-! ### Where a machine stands in a stream -/

/-- The events have the versions 0, 1, 2 and so on. -/
def Consecutive (events : List Event) : Prop :=
  ∀ (i : Nat) (e : Event), events[i]? = some e → e.version = i

/-- A machine that is what the events up to its version make of a fresh one. -/
structure Replays (fresh : Machine σ) (events : List Event) (m : Machine σ) : Prop where
  stream : m.stream = fresh.stream
  careful : m.Careful
  applied : fresh.applyAll (events.take (m.version + 1).toNat) = (.ok (), m)
  noStream_le : noStream ≤ m.version
  lt_length : m.version < events.length

variable {fresh : Machine σ} {events : List Event}

theorem replays_fresh (hversion : fresh.version = noStream) (hcareful : fresh.Careful)
    (events : List Event) : Replays fresh events fresh where
  stream := rfl
  careful := hcareful
  applied := by
    rw [hversion]
    rfl
  noStream_le := Int.le_of_eq hversion.symm
  lt_length := by
    rw [hversion]
    unfold noStream
    omega

/-- Events that come later change nothing. -/
theorem Replays.append (h : Replays fresh events m) (later : List Event) :
    Replays fresh (events ++ later) m where
  stream := h.stream
  careful := h.careful
  applied := by
    have hle : (m.version + 1).toNat ≤ events.length := by
      have := h.lt_length
      omega
    rw [List.take_append_of_le_length hle]
    exact h.applied
  noStream_le := h.noStream_le
  lt_length := by
    have := h.lt_length
    rw [List.length_append]
    omega

/-- What becomes of a machine that applies the events it has not seen: it applies some of them, each
once and none left out, and all of them unless one fails. -/
structure CaughtUp (fresh : Machine σ) (events : List Event) (m : Machine σ)
    (result : Except Fault Unit × Machine σ) : Prop where
  replays : Replays fresh events result.2
  advanced : m.applyAll ((events.take (result.2.version + 1).toNat).drop (m.version + 1).toNat) =
    (.ok (), result.2)
  finished : result.1 = .ok () → result.2.version = events.length - 1

theorem Replays.applyAll (h : Replays fresh events m) (hconsecutive : Consecutive events) :
    CaughtUp fresh events m (m.applyAll (events.drop (m.version + 1).toNat)) := by
  obtain ⟨n, hn⟩ : ∃ n : Nat, m.version + 1 = n :=
    Int.eq_ofNat_of_zero_le (by have := h.noStream_le; unfold noStream at this; omega)
  have hseen : (m.version + 1).toNat = n := by omega
  have hlength : n ≤ events.length := by
    have := h.lt_length
    omega
  rw [hseen]
  obtain ⟨k, m', hk, hadvanced, hresult⟩ := h.careful.applyAll_cases (events.drop n)
  rw [List.length_drop] at hk hresult
  have hversion : m'.version = m.version + k := by
    rw [hadvanced.version]
    cases k with
    | zero => simp
    | succ k =>
        have hlast : ((events.drop n).take (k + 1)).getLast? = events[n + k]? := by
          rw [List.getLast?_eq_getElem?, List.length_take, List.length_drop,
            show min (k + 1) (events.length - n) - 1 = k by omega,
            List.getElem?_take_of_lt (Nat.lt_succ_self k), List.getElem?_drop]
        have hsome : events[n + k]? = some events[n + k] := List.getElem?_eq_getElem (by omega)
        rw [hlast, hsome, Option.map_some, Option.getD_some, hconsecutive _ _ hsome]
        omega
  have htake : events.take (m'.version + 1).toNat = events.take n ++ (events.drop n).take k := by
    rw [show (m'.version + 1).toNat = n + k by omega, List.take_add]
  have hreplays : Replays fresh events m' := by
    refine ⟨hadvanced.stream.trans h.stream, hadvanced.careful, ?_, ?_, ?_⟩
    · rw [htake, applyAll_append (hseen ▸ h.applied), hadvanced.applied]
    · have := h.noStream_le
      omega
    · omega
  have hbetween : m.applyAll ((events.take (m'.version + 1).toNat).drop (m.version + 1).toNat) =
      (.ok (), m') := by
    rw [htake, hseen, List.drop_left' (by rw [List.length_take]; omega), hadvanced.applied]
  rcases hresult with ⟨hok, hall⟩ | ⟨f, herror⟩
  · rw [hok]
    refine ⟨hreplays, hbetween, fun _ => ?_⟩
    show m'.version = _
    omega
  · rw [herror]
    exact ⟨hreplays, hbetween, fun hok => nomatch hok⟩

end EventNet.Machine
