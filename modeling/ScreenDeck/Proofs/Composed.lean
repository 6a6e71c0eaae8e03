import ScreenDeck.Proofs.Keeping

/-! Actions composed of steps. A step takes no notice of the context, and a composed action meets
the context only where it hands work over. What every step keeps, a composed action keeps. -/

namespace ScreenDeck.Act

variable {σ α β : Type} {R : σ → σ → Prop}

/-- In any other context the action does the same. -/
def ContextFree (a : Act σ α) : Prop :=
  ∀ s c, a { s with context := c } = ((a s).1, { (a s).2 with context := c })

namespace ContextFree

theorem context_eq {a : Act σ α} (h : ContextFree a) (s : Scene σ) : (a s).2.context = s.context := by
  have hs : (a s).2 = { (a s).2 with context := s.context } := congrArg Prod.snd (h s s.context)
  rw [hs]

theorem pure (a : α) : ContextFree (Pure.pure a : Act σ α) := fun _ _ => rfl

theorem throw (e : Abort) : ContextFree (MonadExcept.throw e : Act σ α) := fun _ _ => rfl

theorem state : ContextFree (Act.state : Act σ σ) := fun _ _ => rfl

theorem note (n : Notice) : ContextFree (Act.note n : Act σ Unit) := fun _ _ => rfl

theorem modifyState (f : σ → σ) : ContextFree (Act.modifyState f) := fun _ _ => rfl

theorem settle (r : Except Abort α) : ContextFree (Act.settle r : Act σ α) := by
  cases r with
  | ok a => exact pure a
  | error e => exact throw e

theorem bind {a : Act σ α} {f : α → Act σ β} (ha : ContextFree a) (hf : ∀ x, ContextFree (f x)) :
    ContextFree (a >>= f) := by
  intro s c
  rw [bind_apply, bind_apply, ha s c]
  rcases a s with ⟨_ | x, t⟩
  · rfl
  · exact hf x t c

end ContextFree

/-- An action made of steps that relate the states before and after them. -/
inductive Composed (R : σ → σ → Prop) : {α : Type} → Act σ α → Prop
  | step {α : Type} {a : Act σ α} (hfree : ContextFree a) (hr : Keeps (OnState R) a) : Composed R a
  | bind {α β : Type} {a : Act σ α} {f : α → Act σ β} (ha : Composed R a)
      (hf : ∀ x, Composed R (f x)) : Composed R (a >>= f)
  | attempt {α : Type} {a : Act σ α} (ha : Composed R a) : Composed R (attempt a)
  | runSync {α : Type} {work : Act σ α} (hw : Composed R work) : Composed R (runSync work)

namespace Composed

theorem modifyState {f : σ → σ} (hf : ∀ d, R d (f d)) : Composed R (Act.modifyState f) :=
  step (.modifyState f) fun s => hf s.state

section Steady

variable [Steady (OnState R)]

theorem keeps {a : Act σ α} (h : Composed R a) : Keeps (OnState R) a := by
  induction h with
  | step _ hr => exact hr
  | bind _ _ iha ihf => exact iha.bind ihf
  | attempt _ ih => exact ih.attempt
  | runSync _ ih => exact ih.runSync

theorem pure (a : α) : Composed R (Pure.pure a : Act σ α) := step (.pure a) (.pure a)

theorem throw (e : Abort) : Composed R (MonadExcept.throw e : Act σ α) := step (.throw e) (.throw e)

theorem fail (f : Failure) : Composed R (Act.fail f : Act σ α) := throw _

theorem panic : Composed R (Act.panic : Act σ α) := throw _

theorem hang : Composed R (Act.hang : Act σ α) := throw _

theorem state : Composed R (Act.state : Act σ σ) := step .state .state

theorem note (n : Notice) : Composed R (Act.note n : Act σ Unit) := step (.note n) (.note n)

theorem settle (r : Except Abort α) : Composed R (Act.settle r : Act σ α) :=
  step (.settle r) (.settle r)

theorem discard {a : Act σ α} (ha : Composed R a) : Composed R (discard a) :=
  ha.bind fun _ => pure _

theorem forM {f : α → Act σ Unit} (hf : ∀ x, Composed R (f x)) (xs : List α) :
    Composed R (xs.forM f) := by
  induction xs with
  | nil => exact pure ()
  | cons x xs ih => exact (hf x).bind fun _ => ih

end Steady

theorem ite {p : Prop} [Decidable p] {a b : Act σ α} (ha : Composed R a) (hb : Composed R b) :
    Composed R (if p then a else b) := by
  split
  · exact ha
  · exact hb

theorem running_runSync {work : Act σ α} {s : Scene σ}
    (hw : ∀ s, (work s).2.context.running = s.context.running) :
    (Act.runSync work s).2.context.running = s.context.running := by
  by_cases hs : s.context.Serves
  · rw [runSync_apply_of_serves hs]
    simp only [Context.running_outside, (contained_alike work _).1, hw, Context.running_inside]
  · rw [runSync_apply_of_not_serves work hs]
    exact Context.running_refusal _

theorem running_eq {a : Act σ α} (h : Composed R a) (s : Scene σ) :
    (a s).2.context.running = s.context.running := by
  induction h generalizing s with
  | step hfree _ => rw [hfree.context_eq]
  | @bind _ _ a f _ _ iha ihf =>
    rw [bind_apply]
    have ha := iha s
    rcases hr : a s with ⟨_ | x, t⟩
    · rwa [hr] at ha
    · rw [hr] at ha
      exact (ihf x t).trans ha
  | attempt _ ih => exact ih s
  | runSync _ ih => exact running_runSync ih

end Composed
end ScreenDeck.Act
