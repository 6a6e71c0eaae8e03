import ScreenDeck.Proofs.HandOver

/-! Runs side by side. Two scenes differ in their states alone. An action that comes to the same end from
both cannot tell them apart. -/

namespace ScreenDeck.Act

variable {σ α β : Type} {P R : σ → σ → Prop} {s t : Scene σ}

structure Beside (R : σ → σ → Prop) (s t : Scene σ) : Prop where
  context : t.context = s.context
  notices : t.notices = s.notices
  state : R s.state t.state

/-- Two runs have come to the same end, and their scenes still differ in their states alone. -/
structure SameEnd (R : σ → σ → Prop) (x y : Except Abort α × Scene σ) : Prop where
  result : y.1 = x.1
  scenes : Beside R x.2 y.2

def Agrees (P R : σ → σ → Prop) (a : Act σ α) : Prop := ∀ s t, Beside P s t → SameEnd R (a s) (a t)

theorem Beside.eq (h : Beside R s t) {d : σ} (hd : t.state = d) : t = { s with state := d } := by
  cases t
  simp only [Scene.mk.injEq]
  exact ⟨h.context, h.notices, hd⟩

theorem Beside.mono (hPR : ∀ {d e}, P d e → R d e) (h : Beside P s t) : Beside R s t :=
  ⟨h.context, h.notices, hPR h.state⟩

theorem Beside.inContext (h : Beside P s t) (c : Context) :
    Beside P { s with context := c } { t with context := c } := ⟨rfl, h.notices, h.state⟩

theorem SameEnd.inContext {x y : Except Abort α × Scene σ} (h : SameEnd R x y) (f : Context → Context) :
    SameEnd R (x.1, { x.2 with context := f x.2.context }) (y.1, { y.2 with context := f y.2.context }) :=
  ⟨h.result, congrArg f h.scenes.context, h.scenes.notices, h.scenes.state⟩

namespace Agrees

theorem mono_left {Q : σ → σ → Prop} {a : Act σ α} (hPQ : ∀ {d e}, P d e → Q d e) (ha : Agrees Q R a) :
    Agrees P R a := fun s t h => ha s t (h.mono hPQ)

theorem pure (a : α) : Agrees R R (Pure.pure a : Act σ α) := fun _ _ h => ⟨rfl, h⟩

theorem throw (e : Abort) : Agrees R R (MonadExcept.throw e : Act σ α) := fun _ _ h => ⟨rfl, h⟩

theorem fail (f : Failure) : Agrees R R (Act.fail f : Act σ α) := throw _

theorem panic : Agrees R R (Act.panic : Act σ α) := throw _

theorem hang : Agrees R R (Act.hang : Act σ α) := throw _

theorem note (n : Notice) : Agrees R R (Act.note n : Act σ Unit) := fun _ _ h =>
  ⟨rfl, h.context, congrArg (· ++ [n]) h.notices, h.state⟩

theorem settle (r : Except Abort α) : Agrees R R (Act.settle r : Act σ α) := by
  cases r with
  | ok a => exact pure a
  | error e => exact throw e

theorem modifyState {f : σ → σ} (hf : ∀ {d e}, P d e → R (f d) (f e)) : Agrees P R (Act.modifyState f) :=
  fun _ _ h => ⟨rfl, h.context, h.notices, hf h.state⟩

theorem bind {a : Act σ α} {f : α → Act σ β} (ha : Agrees P R a) (hf : ∀ x, Agrees R R (f x)) :
    Agrees P R (a >>= f) := by
  intro s t h
  have hrun := ha s t h
  rw [bind_apply, bind_apply]
  rcases hs : a s with ⟨r, u⟩
  rcases ht : a t with ⟨q, v⟩
  rw [hs, ht] at hrun
  obtain rfl : q = r := hrun.result
  cases q with
  | ok x => exact hf x _ _ hrun.scenes
  | error e => exact ⟨rfl, hrun.scenes⟩

/-- What is read from the states may be anything on which they agree. -/
theorem state_bind {f : σ → Act σ α} (hf : ∀ {d e}, P d e → f e = f d ∧ Agrees P R (f d)) :
    Agrees P R (Act.state >>= f) := by
  intro s t h
  obtain ⟨hread, hrun⟩ := hf h.state
  rw [bind_apply_ok (state_apply s), bind_apply_ok (state_apply t), hread]
  exact hrun s t h

theorem context_bind {f : Context → Act σ α} (hf : ∀ c, Agrees P R (f c)) :
    Agrees P R (Act.context >>= f) := by
  intro s t h
  rw [bind_apply_ok (context_apply s), bind_apply_ok (context_apply t), h.context]
  exact hf _ s t h

theorem attempt {a : Act σ α} (ha : Agrees P R a) : Agrees P R (Act.attempt a) := by
  intro s t h
  have hrun := ha s t h
  rw [attempt_apply, attempt_apply]
  exact ⟨congrArg Except.ok hrun.result, hrun.scenes⟩

theorem contained {a : Act σ α} (ha : Agrees P R a) : Agrees P R (Act.contained a) := by
  refine ha.attempt.bind fun r => ?_
  rcases r with (_ | _ | _) | _
  · exact settle _
  · exact (note _).bind fun _ => fail _
  all_goals exact settle _

theorem onThread (thread : Thread) {a : Act σ α} (ha : Agrees P R a) :
    Agrees P R (Act.onThread thread a) := by
  intro s t h
  have hthere := ha _ _ (h.inContext { s.context with thread := thread })
  rw [onThread_apply, onThread_apply, h.context]
  exact hthere.inContext fun c => { c with thread := s.context.thread }

/-- Work may be refused, and then the states are those from before. -/
theorem runSync {work : Act σ α} (hw : Agrees P R work) (hPR : ∀ {d e}, P d e → R d e) :
    Agrees P R (Act.runSync work) := by
  intro s t h
  by_cases hs : s.context.Serves
  · have ht : t.context.Serves := h.context ▸ hs
    have hin := hw.contained _ _ (h.inContext s.context.inside)
    rw [runSync_apply_of_serves hs, runSync_apply_of_serves ht, h.context]
    exact hin.inContext s.context.outside
  · have ht : ¬ t.context.Serves := h.context ▸ hs
    rw [runSync_apply_of_not_serves work hs, runSync_apply_of_not_serves work ht, h.context]
    exact ⟨rfl, (h.inContext _).mono hPR⟩

theorem shutdown : Agrees R R (Act.shutdown : Act σ Unit) := by
  intro s t h
  by_cases hs : s.context.StaysHere ∨ s.context.loop.busy = false
  · have ht : t.context.StaysHere ∨ t.context.loop.busy = false := h.context ▸ hs
    rw [shutdown_apply hs, shutdown_apply ht, h.context, h.notices]
    exact ⟨rfl, rfl, rfl, h.state⟩
  · obtain ⟨hstays, hbusy⟩ := not_or.mp hs
    rw [shutdown_apply_of_busy hstays (by simpa using hbusy),
      shutdown_apply_of_busy (h.context ▸ hstays) (by simpa [h.context] using hbusy), h.context, h.notices]
    exact ⟨rfl, rfl, rfl, h.state⟩

theorem discard {a : Act σ α} (ha : Agrees P R a) : Agrees P R (Functor.discard a) :=
  ha.bind fun _ => pure _

theorem forM {f : α → Act σ Unit} (hf : ∀ x, Agrees R R (f x)) (xs : List α) : Agrees R R (xs.forM f) := by
  induction xs with
  | nil => exact pure ()
  | cons x xs ih => exact (hf x).bind fun _ => ih

theorem ite {p : Prop} [Decidable p] {a b : Act σ α} (ha : Agrees P R a) (hb : Agrees P R b) :
    Agrees P R (if p then a else b) := by
  split
  · exact ha
  · exact hb

end Agrees
end ScreenDeck.Act
