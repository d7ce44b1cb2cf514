import EventNet.Proofs.Machine.Index

/-!
Firing a transition and applying its event.

Firing finds its transition by identity and looks at tokens, inhibitors and guard.  Applying finds one by
the event type and takes the tokens.  The two are about the same transition where no two identities share
a type (`Filed.distinguishes`), however often transitions were replaced and changed their type.  Then an
event that was fired finds its tokens, and only its handler can still refuse it.

The version of the event and the tokens it leaves are sums of 64 bits.  Neither half looks at whether they
fit, and a machine takes its version from the event that is applied, whatever that is.
-/

namespace EventNet.Machine

variable {σ : Type} {m : Machine σ} {t : Transition σ}

/-! ### From firing to applying -/

/-- Firing and applying agree in a machine that was given some transitions. -/
structure Agrees (m : Machine σ) (given : List (Transition σ)) : Prop where
  /-- The transition of an identity is the one that was given last. -/
  canFire_iff : ∀ id, m.canFire id = true ↔ ∃ t, latest given (·.id == id) = some t ∧ m.Lets t
  fires_iff : ∀ stamp id data, (∃ e, m.fire stamp id data = .ok e) ↔ m.canFire id = true
  fired : ∀ stamp id data e, m.fire stamp id data = .ok e →
    ∃ t, latest given (·.id == id) = some t ∧ e.type = t.eventType ∧
      Word.IsSum e.version (m.version + 1) ∧ e.stream = m.stream ∧ e.data = data ∧
      ((m.handle e).1 = .ok () → ∃ places,
        m.apply e = (.ok (), { m with state := (m.handle e).2, places, version := e.version }) ∧
        ∀ place, Word.IsSum (count places place)
          (m.tokens place - count t.inputs place + count t.outputs place))

/-- An event with the type and the tokens of a transition moves them, if its handler does not fail. -/
theorem Orderly.apply_ofEvent? (h : m.Orderly) {e : Event} (ht : m.ofEvent? e.type = some t)
    (hinputs : ∀ q ∈ t.inputs, q.2 ≤ m.tokens q.1) (hhandle : (m.handle e).1 = .ok ()) :
    ∃ places,
      m.apply e = (.ok (), { m with state := (m.handle e).2, places, version := e.version }) ∧
      ∀ place, Word.IsSum (count places place)
        (m.tokens place - count t.inputs place + count t.outputs place) := by
  rcases h.apply_cases e with ⟨-, -, places, happly, -, hcount, -⟩ | ⟨hlack, -⟩
  · refine ⟨places, ?_, fun place => ?_⟩
    · rcases m.finish_cases e places with ⟨f, hf, -⟩ | ⟨-, hfinish⟩
      · cases hhandle.symm.trans hf
      · exact happly.trans hfinish
    · rw [hcount, add_change ht]
      exact Word.isSum_wrap _
  · refine absurd ⟨Or.inl (by rw [ht]; rfl), fun u hu => ?_⟩ hlack
    exact Option.some.inj (ht.symm.trans hu) ▸ hinputs

theorem Filed.agrees {given : List (Transition σ)} (h : m.Filed given) (horderly : m.Orderly)
    (hown : OwnTypes given) : m.Agrees given where
  canFire_iff id := by rw [m.canFire_iff, h.find]
  fires_iff stamp id data := by
    rcases m.fire_cases stamp id data with ⟨t, hfind, hlets, hfire⟩ | ⟨hnot, f, hfire⟩
    · exact ⟨fun _ => (m.canFire_iff id).mpr ⟨t, hfind, hlets⟩, fun _ => ⟨_, hfire⟩⟩
    · rw [hfire, hnot]
      exact ⟨fun ⟨_, he⟩ => (nomatch he), (nomatch ·)⟩
  fired stamp id data e he := by
    rcases m.fire_cases stamp id data with ⟨t, hfind, hlets, hfire⟩ | ⟨-, f, hfire⟩
    · obtain rfl := Except.ok.inj (hfire.symm.trans he)
      refine ⟨t, (h.find id).symm.trans hfind, rfl, Word.isSum_wrap _, rfl, rfl, fun hhandle => ?_⟩
      exact horderly.apply_ofEvent? (h.distinguishes hown id t hfind) hlets.inputs hhandle
    · cases hfire.symm.trans he

end EventNet.Machine
