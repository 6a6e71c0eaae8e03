import ScreenDeck.Proofs.HandOver

/-! Relations between the scenes before and after an action. A steady relation holds over a whole
action as soon as it holds over each change of the state. -/

namespace ScreenDeck.Act

variable {σ α β : Type}

/-- A relation that lets actions follow one another, and lets threads, loops and notices change
while no context is started again. -/
class Steady (R : Scene σ → Scene σ → Prop) : Prop where
  refl : ∀ s, R s s
  trans : ∀ {s t u}, R s t → R t u → R s u
  context : ∀ s c, (c.running = true → s.context.running = true) → R s { s with context := c }
  notices : ∀ s n, R s { s with notices := n }

def OnState (R : σ → σ → Prop) (s t : Scene σ) : Prop := R s.state t.state

theorem steady_onState {R : σ → σ → Prop} (hr : ∀ d, R d d)
    (ht : ∀ {d e f}, R d e → R e f → R d f) : Steady (OnState R) :=
  ⟨fun s => hr s.state, fun h h' => ht h h', fun s _ _ => hr s.state, fun s _ => hr s.state⟩

/-- The flag is down afterwards, even if the caller never comes back. -/
theorem shutdown_cases (s : Scene σ) : ∃ r c n, c.running = false ∧
    (Act.shutdown : Act σ Unit) s = (r, { s with context := c, notices := n }) := by
  by_cases hs : s.context.StaysHere ∨ s.context.loop.busy = false
  · exact ⟨_, _, _, Context.running_shut _, shutdown_apply hs⟩
  · obtain ⟨hh, hb⟩ := not_or.mp hs
    have hr := shutdown_apply_of_busy hh (by simpa using hb)
    exact ⟨_, _, _, Context.running_woken _, hr⟩

def Keeps (R : Scene σ → Scene σ → Prop) (a : Act σ α) : Prop := ∀ s, R s (a s).2

namespace Keeps

variable {R : Scene σ → Scene σ → Prop} [Steady R]

theorem pure (a : α) : Keeps R (Pure.pure a : Act σ α) := fun s => Steady.refl s

theorem throw (e : Abort) : Keeps R (MonadExcept.throw e : Act σ α) := fun s => Steady.refl s

theorem hang : Keeps R (Act.hang : Act σ α) := fun s => Steady.refl s

theorem state : Keeps R (Act.state : Act σ σ) := fun s => Steady.refl s

theorem context : Keeps R (Act.context : Act σ Context) := fun s => Steady.refl s

theorem note (n : Notice) : Keeps R (Act.note n) := fun s => Steady.notices s _

theorem settle (r : Except Abort α) : Keeps R (Act.settle r) := fun s => by
  rw [settle_apply]
  exact Steady.refl s

theorem bind {a : Act σ α} {f : α → Act σ β} (ha : Keeps R a) (hf : ∀ x, Keeps R (f x)) :
    Keeps R (a >>= f) := fun s => by
  rw [bind_apply]
  have h := ha s
  rcases hr : a s with ⟨r, t⟩
  rw [hr] at h
  cases r with
  | ok x => exact Steady.trans h (hf x t)
  | error e => exact h

omit [Steady R] in
/-- What was read is still so when the rest begins. -/
theorem state_bind {f : σ → Act σ α} (hf : ∀ s : Scene σ, R s (f s.state s).2) :
    Keeps R (Act.state >>= f) := fun s => by
  rw [bind_apply_ok (state_apply s)]
  exact hf s

omit [Steady R] in
theorem attempt {a : Act σ α} (ha : Keeps R a) : Keeps R (Act.attempt a) := ha

theorem contained {a : Act σ α} (ha : Keeps R a) : Keeps R (Act.contained a) := by
  intro s
  have h := ha s
  rw [contained_apply]
  rcases hr : a s with ⟨r, t⟩
  rw [hr] at h
  rcases r with (_ | _ | _) | _
  · exact h
  · exact Steady.trans h (Steady.notices t _)
  · exact h
  · exact h

theorem onThread (t : Thread) {a : Act σ α} (ha : Keeps R a) : Keeps R (Act.onThread t a) := by
  intro s
  have hthere := Steady.context (R := R) s { s.context with thread := t } id
  have hrun := ha { s with context := { s.context with thread := t } }
  rw [onThread_apply]
  exact Steady.trans hthere (Steady.trans hrun (Steady.context (R := R) (a _).2 _ id))

theorem runSync {work : Act σ α} (hw : Keeps R work) : Keeps R (Act.runSync work) := by
  intro s
  by_cases hs : s.context.Serves
  · have hin := Steady.context (R := R) s s.context.inside (by simp)
    have hout := Steady.context (R := R) (Act.contained work { s with context := s.context.inside }).2
      (s.context.outside (Act.contained work { s with context := s.context.inside }).2.context) (by simp)
    rw [runSync_apply_of_serves hs]
    exact Steady.trans hin (Steady.trans (hw.contained _) hout)
  · rw [runSync_apply_of_not_serves work hs]
    exact Steady.context s _ (by simp)

theorem shutdown : Keeps R (Act.shutdown : Act σ Unit) := by
  intro s
  obtain ⟨r, c, n, hc, hr⟩ := shutdown_cases s
  rw [hr]
  have hstep := Steady.context (R := R) s c (by simp [hc])
  exact Steady.trans hstep (Steady.notices (R := R) { s with context := c } n)

end Keeps
end ScreenDeck.Act
