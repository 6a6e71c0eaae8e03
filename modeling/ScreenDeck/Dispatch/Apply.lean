import ScreenDeck.Dispatch.Context

/-! What actions do to a scene. Every action is a function of the scene before it, and these
equations say which one. -/

namespace ScreenDeck.Act

variable {σ α β : Type}

theorem pure_apply (a : α) (s : Scene σ) : (pure a : Act σ α) s = (.ok a, s) := rfl

theorem throw_apply (e : Abort) (s : Scene σ) : (throw e : Act σ α) s = (.error e, s) := rfl

theorem bind_apply (a : Act σ α) (f : α → Act σ β) (s : Scene σ) :
    (a >>= f) s = match a s with
      | (.ok x, t) => f x t
      | (.error e, t) => (.error e, t) := by
  change (ExceptT.bindCont f (a s).1) (a s).2 = _
  rcases a s with ⟨r, t⟩
  cases r <;> rfl

theorem bind_apply_ok {a : Act σ α} {f : α → Act σ β} {s t : Scene σ} {x : α}
    (h : a s = (.ok x, t)) : (a >>= f) s = f x t := by
  rw [bind_apply, h]

/-- What came to a value came to its first half. -/
theorem bind_eq_ok {a : Act σ α} {f : α → Act σ β} {s u : Scene σ} {y : β}
    (h : (a >>= f) s = (.ok y, u)) : ∃ x t, a s = (.ok x, t) ∧ f x t = (.ok y, u) := by
  rw [bind_apply] at h
  rcases hr : a s with ⟨r, t⟩
  rw [hr] at h
  cases r with
  | ok x => exact ⟨x, t, rfl, h⟩
  | error e => cases h

theorem state_apply (s : Scene σ) : (state : Act σ σ) s = (.ok s.state, s) := rfl

theorem context_apply (s : Scene σ) : (context : Act σ Context) s = (.ok s.context, s) := rfl

theorem modifyState_apply (f : σ → σ) (s : Scene σ) :
    modifyState f s = (.ok (), { s with state := f s.state }) := rfl

theorem modifyContext_apply (f : Context → Context) (s : Scene σ) :
    modifyContext f s = (.ok (), { s with context := f s.context }) := rfl

theorem note_apply (n : Notice) (s : Scene σ) :
    note n s = (.ok (), { s with notices := s.notices ++ [n] }) := rfl

theorem fail_apply (f : Failure) (s : Scene σ) :
    (fail f : Act σ α) s = (.error (.failed f), s) := rfl

theorem attempt_apply (a : Act σ α) (s : Scene σ) : attempt a s = (.ok (a s).1, (a s).2) := rfl

theorem settle_apply (r : Except Abort α) (s : Scene σ) : settle r s = (r, s) := by
  cases r <;> rfl

/-- Work is contained as it is, but for a panic. -/
theorem contained_apply (work : Act σ α) (s : Scene σ) :
    contained work s = match work s with
      | (.error .panicked, t) =>
        (.error (.failed (.dispatch .workPanicked)),
          { t with notices := t.notices ++ [.workPanicked] })
      | r => r := by
  rw [contained, bind_apply, attempt_apply]
  rcases work s with ⟨r, t⟩
  cases r with
  | ok a => rfl
  | error e => cases e <;> rfl

theorem contained_apply_ne {work : Act σ α} {s : Scene σ} (h : (work s).1 ≠ .error .panicked) :
    contained work s = work s := by
  rw [contained_apply]
  split
  · simp_all
  · rfl

theorem contained_eq_ok {work : Act σ α} {s t : Scene σ} {a : α}
    (h : contained work s = (.ok a, t)) : work s = (.ok a, t) := by
  rw [contained_apply] at h
  split at h
  · cases h
  · exact h

/-- A context that was shut down takes no work and stays as it is. -/
theorem runSync_apply_of_stopped {work : Act σ α} {s : Scene σ} (h : s.context.running = false) :
    runSync work s = (.error (.failed (.dispatch .stopped)), s) := by
  rw [runSync, bind_apply, context_apply]
  simp [h, fail_apply]

/-- On the home thread, and always with an inline context, work runs where the caller is. -/
theorem runSync_apply_of_home {work : Act σ α} {s : Scene σ} (h : s.context.running = true)
    (hh : s.context.mode = .inPlace ∨ s.context.onHomeThread = true) :
    runSync work s = contained work s := by
  rw [runSync, bind_apply, context_apply]
  simp [h, hh]

end ScreenDeck.Act
