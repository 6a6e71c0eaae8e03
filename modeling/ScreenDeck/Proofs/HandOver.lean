import ScreenDeck.Dispatch.Apply

/-! Where handed work runs. A context that serves runs it once, in place or in its loop, and every
other context refuses it before it begins. -/

namespace ScreenDeck

namespace Context

def StaysHere (c : Context) : Prop := c.mode = .inPlace ∨ c.onHomeThread = true

instance (c : Context) : Decidable c.StaysHere := inferInstanceAs (Decidable (_ ∨ _))

/-- Work that is handed in now is run. -/
def Serves (c : Context) : Prop :=
  c.running = true ∧ (c.StaysHere ∨ c.loop.ended = false ∧ c.loop.busy = false)

instance (c : Context) : Decidable c.Serves := inferInstanceAs (Decidable (_ ∧ _))

/-- What work finds when it begins. -/
def inside (c : Context) : Context :=
  if c.StaysHere then c else { c with thread := .ui, loop := { c.loop with inbox := [], busy := true } }

def turned (c : Context) : Context :=
  if c.running then c else { c with loop := { c.loop with inbox := [], ended := true } }

/-- What the caller finds when work has left the context `c`. -/
def outside (caller c : Context) : Context :=
  if caller.StaysHere then c
  else ({ c with thread := caller.thread, loop := { c.loop with busy := false } } : Context).turned

def refusal (c : Context) : Abort × Context :=
  if c.running = false ∨ c.loop.ended = true then (.failed (.dispatch .stopped), c)
  else (.hung, { c with loop := { c.loop with inbox := c.loop.inbox ++ [.work] } })

def woken (c : Context) : Context :=
  if c.running && !c.loop.ended then
    { c with running := false, loop := { c.loop with inbox := c.loop.inbox ++ [.wake] } }
  else { c with running := false }

/-- The context after it was shut down. A loop that the caller waits for has ended, and one that is
at work has been woken. -/
def shut (c : Context) : Context :=
  match c.mode with
  | .inPlace => { c with running := false }
  | .dedicated =>
    if c.onHomeThread then c.woken
    else { c with running := false, loop := { c.loop with inbox := [], ended := true } }

theorem staysHere_iff {c : Context} : c.StaysHere ↔ c.mode = .inPlace ∨ c.thread = .ui := by
  cases hm : c.mode <;> simp [StaysHere, onHomeThread, home, hm]

theorem StaysHere.inside_eq {c : Context} (h : c.StaysHere) : c.inside = c := if_pos h

theorem StaysHere.outside_eq {caller : Context} (h : caller.StaysHere) (c : Context) :
    outside caller c = c := if_pos h

theorem staysHere_inside (c : Context) : c.inside.StaysHere := by
  by_cases h : c.StaysHere
  · rwa [h.inside_eq]
  · rw [inside, if_neg h]
    exact staysHere_iff.mpr (.inr rfl)

@[simp]
theorem running_inside (c : Context) : c.inside.running = c.running := by
  unfold inside
  split <;> rfl

@[simp]
theorem mode_inside (c : Context) : c.inside.mode = c.mode := by
  unfold inside
  split <;> rfl

@[simp]
theorem running_turned (c : Context) : c.turned.running = c.running := by
  unfold turned
  split <;> rfl

@[simp]
theorem mode_turned (c : Context) : c.turned.mode = c.mode := by
  unfold turned
  split <;> rfl

@[simp]
theorem thread_turned (c : Context) : c.turned.thread = c.thread := by
  unfold turned
  split <;> rfl

@[simp]
theorem running_outside (caller c : Context) : (outside caller c).running = c.running := by
  unfold outside
  split
  · rfl
  · exact running_turned _

@[simp]
theorem mode_outside (caller c : Context) : (outside caller c).mode = c.mode := by
  unfold outside
  split
  · rfl
  · exact mode_turned _

theorem thread_outside {caller c : Context} (h : c.thread = caller.inside.thread) :
    (outside caller c).thread = caller.thread := by
  by_cases hs : caller.StaysHere
  · rw [hs.outside_eq, h, hs.inside_eq]
  · rw [outside, if_neg hs, thread_turned]

@[simp]
theorem running_woken (c : Context) : c.woken.running = false := by
  unfold woken
  split <;> rfl

@[simp]
theorem mode_woken (c : Context) : c.woken.mode = c.mode := by
  unfold woken
  split <;> rfl

@[simp]
theorem thread_woken (c : Context) : c.woken.thread = c.thread := by
  unfold woken
  split <;> rfl

@[simp]
theorem ended_woken (c : Context) : c.woken.loop.ended = c.loop.ended := by
  unfold woken
  split <;> rfl

@[simp]
theorem running_shut (c : Context) : c.shut.running = false := by
  unfold shut
  split
  · rfl
  · split
    · exact running_woken c
    · rfl

@[simp]
theorem mode_shut (c : Context) : c.shut.mode = c.mode := by
  unfold shut
  split
  · rfl
  · split
    · exact mode_woken c
    · rfl

@[simp]
theorem thread_shut (c : Context) : c.shut.thread = c.thread := by
  unfold shut
  split
  · rfl
  · split
    · exact thread_woken c
    · rfl

@[simp]
theorem running_refusal (c : Context) : c.refusal.2.running = c.running := by
  unfold refusal
  split <;> rfl

theorem Serves.inside {c : Context} (h : c.Serves) : c.inside.Serves :=
  ⟨by rw [running_inside, h.1], .inl c.staysHere_inside⟩

/-- A context that serves does so again after work that leaves it alone. -/
theorem Serves.outside_inside {c : Context} (h : c.Serves) : (outside c c.inside).Serves := by
  by_cases hs : c.StaysHere
  · rwa [hs.outside_eq, hs.inside_eq]
  · obtain ⟨he, -⟩ := h.2.resolve_left hs
    have hr : c.inside.running = true := by rw [running_inside, h.1]
    rw [outside, if_neg hs, turned, if_pos hr, Context.inside, if_neg hs]
    exact ⟨h.1, .inr ⟨he, rfl⟩⟩

end Context

def Scene.Alike {σ : Type} (s t : Scene σ) : Prop := s.context = t.context ∧ s.state = t.state

theorem Scene.Alike.symm {σ : Type} {s t : Scene σ} (h : s.Alike t) : t.Alike s :=
  ⟨h.1.symm, h.2.symm⟩

theorem Scene.Alike.trans {σ : Type} {s t u : Scene σ} (h : s.Alike t) (h' : t.Alike u) :
    s.Alike u := ⟨h.1.trans h'.1, h.2.trans h'.2⟩

namespace Act

variable {σ α : Type}

namespace Loop

theorem turn_apply (s : Scene σ) :
    (turn : Act σ Unit) s = (.ok (), { s with context := s.context.turned }) := by
  rw [turn, bind_apply, context_apply]
  cases h : s.context.running <;> simp [Context.turned, h, pure_apply, receive, bind_apply,
    modifyContext_apply]

end Loop

theorem onThread_apply (t : Thread) (a : Act σ α) (s : Scene σ) :
    onThread t a s =
      let r := a { s with context := { s.context with thread := t } }
      (r.1, { r.2 with context := { r.2.context with thread := s.context.thread } }) := by
  rw [onThread, bind_apply, context_apply]
  simp only [bind_apply, modifyContext_apply, attempt_apply, settle_apply]

theorem serve_apply (work : Act σ α) (s : Scene σ) :
    Loop.serve work s =
      let begun := { s.context with thread := .ui, loop := { s.context.loop with inbox := [], busy := true } }
      let r := contained work { s with context := begun }
      let finished := { r.2.context with
        thread := s.context.thread, loop := { r.2.context.loop with busy := false } }
      (.ok r.1, { r.2 with context := Context.turned finished }) := by
  simp only [Loop.serve, Loop.receive, bind_apply, modifyContext_apply, attempt_apply,
    onThread_apply, Loop.turn_apply, pure_apply]

/-- Work that is served runs in a context of its own, and a panic in it goes no further. -/
theorem runSync_apply_of_serves {work : Act σ α} {s : Scene σ} (h : s.context.Serves) :
    runSync work s =
      let r := contained work { s with context := s.context.inside }
      (r.1, { r.2 with context := s.context.outside r.2.context }) := by
  obtain ⟨hr, hs⟩ := h
  by_cases hh : s.context.StaysHere
  · rw [runSync_apply_of_home hr hh]
    simp only [hh.inside_eq, hh.outside_eq]
    rfl
  · obtain ⟨he, hb⟩ := hs.resolve_left hh
    have hn := not_or.mp hh
    rw [runSync, bind_apply, context_apply]
    simp only [hr, hn.1, hn.2, Bool.not_true, Bool.false_eq_true, if_false, decide_false,
      Bool.or_false]
    simp only [handOver, Loop.send, bind_apply, context_apply, modifyContext_apply, he, hb,
      Bool.false_eq_true, if_false, serve_apply, settle_apply]
    simp only [Context.inside, Context.outside, if_neg hh, he]

/-- Work that is refused has not begun. -/
theorem runSync_apply_of_not_serves (work : Act σ α) {s : Scene σ} (h : ¬ s.context.Serves) :
    runSync work s =
      (.error s.context.refusal.1, { s with context := s.context.refusal.2 }) := by
  cases hr : s.context.running with
  | false => simp [runSync_apply_of_stopped hr, Context.refusal, hr]
  | true =>
    have hh : ¬ s.context.StaysHere := fun hh => h ⟨hr, .inl hh⟩
    have hn := not_or.mp hh
    rw [runSync, bind_apply, context_apply]
    simp only [hr, hn.1, hn.2, Bool.not_true, Bool.false_eq_true, if_false, decide_false,
      Bool.or_false]
    rw [handOver, bind_apply, context_apply]
    cases he : s.context.loop.ended with
    | true => simp [he, Context.refusal, fail_apply, bind_apply]
    | false =>
      have hb : s.context.loop.busy = true := by
        rw [← Bool.not_eq_false]
        exact fun hb => h ⟨hr, .inr ⟨he, hb⟩⟩
      simp [he, hb, hr, Context.refusal, bind_apply, Loop.send, modifyContext_apply,
        context_apply, hang, throw_apply]

theorem runSync_eq_ok {work : Act σ α} {s t : Scene σ} {a : α} (h : runSync work s = (.ok a, t)) :
    s.context.Serves ∧ ∃ u, work { s with context := s.context.inside } = (.ok a, u) ∧
      t = { u with context := s.context.outside u.context } := by
  by_cases hs : s.context.Serves
  · rw [runSync_apply_of_serves hs] at h
    rcases hr : contained work { s with context := s.context.inside } with ⟨r, u⟩
    simp only [hr] at h
    obtain ⟨rfl, rfl⟩ := h
    exact ⟨hs, u, contained_eq_ok hr, rfl⟩
  · rw [runSync_apply_of_not_serves work hs] at h
    cases h

/-- One whom the loop is waiting for never comes back. -/
theorem shutdown_apply_of_busy {s : Scene σ} (h : ¬ s.context.StaysHere)
    (hb : s.context.loop.busy = true) :
    shutdown s = (.error .hung, { s with
      context := s.context.woken
      notices := s.notices ++ if s.context.running then [.contextShuttingDown] else [] }) := by
  obtain ⟨hm, hh⟩ := not_or.mp h
  have hd : s.context.mode = .dedicated := by
    cases hc : s.context.mode with
    | inPlace => exact absurd hc hm
    | dedicated => rfl
  rw [shutdown, bind_apply, context_apply]
  cases hr : s.context.running <;> cases he : s.context.loop.ended <;>
    simp [Context.woken, hd, hr, hh, he, hb, bind_apply, modifyContext_apply, note_apply, Loop.send,
      hang, throw_apply]

/-- A shutdown lowers the flag and waits for the loop to end, which an idle one does. -/
theorem shutdown_apply {s : Scene σ} (h : s.context.StaysHere ∨ s.context.loop.busy = false) :
    shutdown s = (.ok (), { s with
      context := s.context.shut
      notices := s.notices ++ if s.context.running then [.contextShuttingDown] else [] }) := by
  rw [shutdown, bind_apply, context_apply]
  cases hm : s.context.mode with
  | inPlace =>
    cases hr : s.context.running <;>
      simp [Context.shut, hm, hr, bind_apply, modifyContext_apply, note_apply, pure_apply]
  | dedicated =>
    cases hh : s.context.onHomeThread with
    | true =>
      cases hr : s.context.running <;> cases he : s.context.loop.ended <;>
        simp [Context.shut, Context.woken, hm, hr, hh, he, bind_apply, modifyContext_apply, note_apply,
          pure_apply, Loop.send]
    | false =>
      have hb : s.context.loop.busy = false :=
        h.resolve_left (by simp [Context.StaysHere, hm, hh])
      cases hr : s.context.running <;> cases he : s.context.loop.ended <;>
        simp [Context.shut, Context.turned, hm, hr, hh, he, hb, bind_apply, modifyContext_apply,
          note_apply, Loop.send, Loop.turn_apply]

/-! How work ends and what it leaves behind, wherever it is handed in. -/

def containment : Except Abort α → Except Abort α
  | .error .panicked => .error (.failed (.dispatch .workPanicked))
  | r => r

theorem contained_fst (work : Act σ α) (s : Scene σ) :
    (contained work s).1 = containment (work s).1 := by
  rw [contained_apply]
  rcases work s with ⟨(_ | _ | _) | _, t⟩ <;> rfl

theorem contained_alike (work : Act σ α) (s : Scene σ) :
    (contained work s).2.Alike (work s).2 := by
  rw [contained_apply]
  rcases work s with ⟨(_ | _ | _) | _, t⟩ <;> exact ⟨rfl, rfl⟩

def within (s : Scene σ) : Scene σ := { s with context := s.context.inside }

theorem runSync_fst {s : Scene σ} (h : s.context.Serves) (work : Act σ α) :
    (runSync work s).1 = containment (work (within s)).1 := by
  rw [runSync_apply_of_serves h]
  exact contained_fst work (within s)

theorem runSync_state {s : Scene σ} (h : s.context.Serves) (work : Act σ α) :
    (runSync work s).2.state = (work (within s)).2.state := by
  rw [runSync_apply_of_serves h]
  exact (contained_alike work (within s)).2

theorem runSync_modifyState (f : σ → σ) (s : Scene σ) :
    runSync (modifyState f) s =
      if s.context.Serves then
        (.ok (), { s with context := s.context.outside s.context.inside, state := f s.state })
      else (.error s.context.refusal.1, { s with context := s.context.refusal.2 }) := by
  by_cases hs : s.context.Serves
  · rw [if_pos hs, runSync_apply_of_serves hs, contained_apply, modifyState_apply]
  · rw [if_neg hs, runSync_apply_of_not_serves _ hs]

/-- Pieces of work that leave the same behind do so wherever they are handed in. -/
theorem runSync_alike {v w : Act σ α} {s : Scene σ}
    (h : s.context.Serves → (v (within s)).2.Alike (w (within s)).2) :
    (runSync v s).2.Alike (runSync w s).2 := by
  by_cases hs : s.context.Serves
  · have hvw := (contained_alike v (within s)).trans ((h hs).trans (contained_alike w (within s)).symm)
    rw [runSync_apply_of_serves hs, runSync_apply_of_serves hs]
    exact ⟨congrArg s.context.outside hvw.1, hvw.2⟩
  · rw [runSync_apply_of_not_serves v hs, runSync_apply_of_not_serves w hs]
    exact ⟨rfl, rfl⟩

theorem noted_fst (a : Act σ Unit) (n : Notice) (s : Scene σ) :
    ((do a; note n : Act σ Unit) s).1 = (a s).1 := by
  rw [bind_apply]
  rcases a s with ⟨_ | _, t⟩ <;> rfl

theorem noted_alike (a : Act σ Unit) (n : Notice) (s : Scene σ) :
    ((do a; note n : Act σ Unit) s).2.Alike (a s).2 := by
  rw [bind_apply]
  rcases a s with ⟨_ | _, t⟩ <;> exact ⟨rfl, rfl⟩

end Act
end ScreenDeck
