import ScreenDeck.Proofs.Composed
import ScreenDeck.Proofs.PlainEvaluation

/-! Composed actions on a flat scene, whose context is inline and new but for its flag. On every
context that fits, they end as they do there and leave the same behind. -/

namespace ScreenDeck

variable {σ α β : Type}

/-- Only the flag is left of the context. -/
def Scene.flat (s : Scene σ) : Scene σ :=
  { s with context := { mode := .inPlace, running := s.context.running } }

namespace Act

open ScreenDeck.Action (Place Fits)

/-- The scene `s` and its flat scene have come to the ends `r` and `q`, and these agree. -/
structure Tracks (place : Place) (s : Scene σ) (r q : Except Abort α × Scene σ) : Prop where
  result : q.1 = r.1
  flat : q.2 = r.2.flat
  fits : Fits r.2.context place
  mode : r.2.context.mode = s.context.mode
  thread : r.2.context.thread = s.context.thread

def Plain (a : Act σ α) : Prop :=
  ∀ place s, Fits s.context place → place ≠ .helper → Tracks place s (a s) (a s.flat)

theorem ContextFree.plain {a : Act σ α} (h : ContextFree a) : Plain a := by
  intro place s hs _
  have hflat : a s.flat = ((a s).1, { (a s).2 with context := s.flat.context }) := h s _
  have hc := h.context_eq s
  rw [hflat]
  refine ⟨rfl, ?_, hc ▸ hs, by rw [hc], by rw [hc]⟩
  simp only [Scene.flat, hc]

/-- The rest of an action may be plain, however its two beginnings came to agree. -/
theorem Tracks.bind {place : Place} {s : Scene σ} {a b : Act σ α} {f : α → Act σ β}
    (h : Tracks place s (a s) (b s.flat)) (hp : place ≠ .helper) (hf : ∀ x, Plain (f x)) :
    Tracks place s ((a >>= f) s) ((b >>= f) s.flat) := by
  have hflat : b s.flat = ((a s).1, (a s).2.flat) := Prod.ext h.result h.flat
  rw [bind_apply, bind_apply, hflat]
  rcases hr : a s with ⟨r, t⟩
  rw [hr] at h
  cases r with
  | error e => exact ⟨rfl, rfl, h.fits, h.mode, h.thread⟩
  | ok x =>
    have hx := hf x place t h.fits hp
    exact ⟨hx.result, hx.flat, hx.fits, hx.mode.trans h.mode, hx.thread.trans h.thread⟩

theorem Tracks.map {place : Place} {s : Scene σ} {r q : Except Abort α × Scene σ}
    (h : Tracks place s r q) (f : Except Abort α → Except Abort β) :
    Tracks place s (f r.1, r.2) (f q.1, q.2) :=
  ⟨congrArg f h.result, h.flat, h.fits, h.mode, h.thread⟩

namespace Plain

theorem tracks {a : Act σ α} (ha : Plain a) {s : Scene σ} (hs : Fits s.context .free) :
    Tracks .free s (a s) (a s.flat) := ha .free s hs (by decide)

theorem bind {a : Act σ α} {f : α → Act σ β} (ha : Plain a) (hf : ∀ x, Plain (f x)) :
    Plain (a >>= f) := fun place s hs hp => (ha place s hs hp).bind hp hf

theorem attempt {a : Act σ α} (ha : Plain a) : Plain (Act.attempt a) := by
  intro place s hs hp
  have h := ha place s hs hp
  rw [attempt_apply, attempt_apply]
  exact ⟨congrArg Except.ok h.result, h.flat, h.fits, h.mode, h.thread⟩

theorem contained {a : Act σ α} (ha : Plain a) : Plain (Act.contained a) := by
  refine ha.attempt.bind fun r => ?_
  rcases r with (_ | _ | _) | _
  · exact (ContextFree.settle _).plain
  · exact ((ContextFree.note _).bind fun _ => .throw _).plain
  · exact (ContextFree.settle _).plain
  · exact (ContextFree.settle _).plain

/-- Work may be done in place, since the loop hands back what it comes to. -/
theorem runSync {work : Act σ α} (hw : Plain work) : Plain (Act.runSync work) := by
  intro place s hs hp
  cases hr : s.context.running with
  | false =>
    have hflat : s.flat.context.running = false := hr
    rw [runSync_apply_of_stopped hr, runSync_apply_of_stopped hflat]
    exact ⟨rfl, rfl, hs, rfl, rfl⟩
  | true =>
    have hflat : s.flat.context.running = true := hr
    rw [runSync_apply_of_home hflat (.inl rfl), runSync_apply_of_serves (hs.serves hp hr)]
    -- The scene in which the work runs has the same flat scene.
    have h := hw.contained .work (within s) (hs.inside hp hr) (by decide)
    have hsame : (within s).flat = s.flat := by simp [within, Scene.flat]
    rw [hsame] at h
    have hmode : (Act.contained work (within s)).2.context.mode = s.context.mode :=
      h.mode.trans (Context.mode_inside _)
    refine ⟨h.result, ?_, hs.outside hp h.fits hmode, ?_, Context.thread_outside h.thread⟩
    · rw [h.flat]
      simp [Scene.flat, within]
    · exact (Context.mode_outside _ _).trans hmode

/-- Outside all work an action may as well run on a helper thread. -/
theorem onThread {a : Act σ α} (ha : Plain a) {s : Scene σ} (hs : Fits s.context .free) :
    Tracks .free s (Act.onThread .helper a s) (a s.flat) := by
  have h := ha.tracks (s := { s with context := { s.context with thread := .helper } }) hs.onHelper
  rw [onThread_apply]
  exact ⟨h.result, h.flat, h.fits.offHelper hs h.mode, h.mode, rfl⟩

theorem shutdown : Plain (Act.shutdown : Act σ Unit) := by
  intro place s hs hp
  have hb : s.context.StaysHere ∨ s.context.loop.busy = false := by
    cases place with
    | free => exact hs.imp .inl fun h => h.2.1
    | work => exact .inl (Context.staysHere_iff.mpr (hs.imp_right And.left))
    | helper => exact absurd rfl hp
  rw [shutdown_apply hb, shutdown_apply (s := s.flat) (.inl (.inl rfl))]
  refine ⟨rfl, ?_, hs.shut, Context.mode_shut _, Context.thread_shut _⟩
  simp only [Scene.flat, Context.running_shut]
  rfl

theorem running (f : Bool → α) : Plain (do return f (← Act.context).running : Act σ α) :=
  fun _ _ hs _ => ⟨rfl, rfl, hs, rfl, rfl⟩

end Plain

theorem Composed.plain {R : σ → σ → Prop} {a : Act σ α} (h : Composed R a) : Plain a := by
  induction h with
  | step hfree _ => exact hfree.plain
  | bind _ _ iha ihf => exact iha.bind ihf
  | attempt _ ih => exact ih.attempt
  | runSync _ ih => exact ih.runSync

end Act
end ScreenDeck
