import ScreenDeck.Proofs.HeedlessSteps
import ScreenDeck.Proofs.PageBars

/-! Screens whose parent has been dropped. What asks for the parent is refused, and nothing has happened
then. All else goes as if the screen had no parent, and once the parent is set anew or cleared, everything
does. -/

namespace ScreenDeck

namespace Deck

variable {d e : Deck} {v : Option Event} {es : List Event} {r : Ref .screen} {p : Parent} {s t : Scene Deck}

def Dropped (d : Deck) : Parent → Prop
  | .container k => ∃ x, d.containers.get? k = some x ∧ x.alive = false
  | .panel k => ∃ x, d.panels.get? k = some x ∧ x.alive = false
  | .screen q => ∃ x, d.screens.get? q = some x ∧ x.alive = false

theorem Dropped.modifyScreen (h : d.Dropped p) (q : Ref .screen) {f : Screen → Screen}
    (hf : ∀ x, x.alive = false → (f x).alive = false) : (d.modifyScreen q f).Dropped p := by
  cases p with
  | screen k => exact Store.modify_dead hf q h
  | _ => exact h

/-- What has been dropped never comes back. -/
theorem Move.dropped (hm : Move d v e) (h : d.Dropped p) : e.Dropped p := by
  cases hm with
  | title q value => exact h.modifyScreen q fun _ hx => hx
  | parent q y => exact h.modifyScreen q fun _ hx => hx
  | bury q => exact h.modifyScreen q fun _ _ => rfl
  | dispose q =>
    rw [release_eq]
    exact h.modifyScreen q fun _ hx => hx
  | release y =>
    rw [release_eq]
    exact h
  | containerShows q shown =>
    cases p with
    | container k => exact Store.modify_dead (f := fun x => { x with shown }) (fun _ hx => hx) q h
    | _ => exact h
  | endContainer q =>
    cases p with
    | container k => exact Store.modify_dead (fun _ _ => rfl) q h
    | _ => exact h
  | endPanel q =>
    cases p with
    | panel k => exact Store.modify_dead (fun _ _ => rfl) q h
    | _ => exact h
  | makeContainer c =>
    cases p with
    | container k => exact h.imp fun x hx => ⟨Store.get?_add_of_get? hx.1 c, hx.2⟩
    | _ => exact h
  | makePanel c =>
    cases p with
    | panel k => exact h.imp fun x hx => ⟨Store.get?_add_of_get? hx.1 c, hx.2⟩
    | _ => exact h
  | makeScreen handle =>
    cases p with
    | screen k => exact h.imp fun x hx => ⟨Store.get?_add_of_get? hx.1 _, hx.2⟩
    | _ => exact h
  | makeWidget handle sharing => cases sharing <;> exact h
  | _ => exact h

theorem History.dropped (h : History d es e) (hd : d.Dropped p) : e.Dropped p := by
  induction h with
  | start => exact hd
  | move _ hm ih => exact hm.dropped ih

/-- The screen was given a parent, and that has been dropped. -/
def LostParent (r : Ref .screen) (d : Deck) : Prop :=
  ∃ x p, d.screens.get? r = some x ∧ x.parent = some p ∧ d.Dropped p

theorem HeldBy.not_lostParent {k : Ref .container} (h : HeldBy k r d) : ¬ LostParent r d := by
  rintro ⟨x, p, hx, hp, hdropped⟩
  have hparent := h.parent
  rw [Store.get_of_get? hx, hp] at hparent
  obtain rfl := Option.some.inj hparent
  obtain ⟨y, hy, hdead⟩ := hdropped
  have halive := h.alive
  rw [Store.get_of_get? hy, hdead] at halive
  cases halive

/-- The action is refused because of the parent, and nothing has happened. -/
def Balks {α : Type} (a : Do α) (s : Scene Deck) : Prop :=
  a s = (.error (.failed (.invalidState .parentDropped)), s)

theorem balks_parent (h : LostParent r s.state) : Balks (parent r) s := by
  obtain ⟨x, p, hx, hp, hdropped⟩ := h
  rw [Balks, parent, Act.bind_apply_ok (Act.state_apply s), Store.get_of_get? hx, hp]
  rcases p with k | k | k <;> obtain ⟨y, hy, hdead⟩ := hdropped
  all_goals
    simp only [Store.get_of_get? hy, hdead]
    rfl

theorem Balks.bind {α β : Type} {a : Do α} (h : Balks a s) (f : α → Do β) : Balks (a >>= f) s := by
  rw [Balks, Act.bind_apply, h]

theorem balks_setBarVisible (h : LostParent r s.state) (value : Bool) : Balks (setBarVisible r value) s :=
  (balks_parent h).bind _

theorem balks_enableBar (h : LostParent r s.state) : Balks (enableBar r) s :=
  ((balks_parent h).bind _).bind _

theorem balks_isShown (h : LostParent r s.state) : Balks (isShown r) s := (balks_parent h).bind _

theorem balks_getProperty (h : LostParent r s.state) {name : String}
    (hname : Property.ofName name = .ok .isShown) : Balks (getProperty r name) s := by
  unfold getProperty
  rw [hname]
  exact (balks_isShown h).bind _

/-- The same scene, in which the screen has no parent. -/
def severed (r : Ref .screen) (s : Scene Deck) : Scene Deck := { s with state := s.state.reparent r none }

theorem reparent_reparent (r : Ref .screen) (x y : Option Parent) (d : Deck) :
    (d.reparent r x).reparent r y = d.reparent r y :=
  congrArg (fun screens => { d with screens }) (Store.modify_modify d.screens r _ _)

/-- Once the parent is set anew, nothing is left of what it was before. -/
theorem setParent_severed (r : Ref .screen) (x : Option Parent) (s : Scene Deck) :
    setParent r x (severed r s) = setParent r x s :=
  congrArg (fun d => (Except.ok (), ({ s with state := d } : Scene Deck)))
    (reparent_reparent r none x s.state)

theorem LostParent.reparented (h : LostParent r d) (x : Option Parent) :
    Reparented r x d (d.reparent r x) := by
  obtain ⟨y, -, hy, -⟩ := h
  exact ⟨Option.isSome_iff_exists.mpr ⟨y, hy⟩, rfl⟩

theorem reparented_self {x : Screen} (hx : d.screens.get? r = some x) : Reparented r x.parent d d := by
  refine ⟨Option.isSome_iff_exists.mpr ⟨x, hx⟩, ?_⟩
  refine congrArg (fun screens => { d with screens }) (Store.modify_eq_self fun y hy => ?_).symm
  rw [Option.some.inj (hy.symm.trans hx)]

theorem Reparented.parent {x : Option Parent} (h : Reparented r x d d) :
    ∃ y, d.screens.get? r = some y ∧ y.parent = x := by
  obtain ⟨y, hy⟩ := Option.isSome_iff_exists.mp h.there
  refine ⟨{ y with parent := x }, ?_, rfl⟩
  have hself : (d.reparent r x).screens.get? r = some { y with parent := x } :=
    (Store.get?_modify_self d.screens r _).trans (by rw [hy]; rfl)
  rwa [← h.eq] at hself

end Deck

namespace Session

open Deck
open Act (Agrees Beside SameEnd)

variable {r : Ref .screen} {s t : Scene Deck}

/-- Only steps that set the parent give the screen another one. -/
theorem lostParent_issue (h : LostParent r s.state) (via : Via) {step : Step}
    (ha : ¬ step.IsOn r ScreenStep.Asks s.state) (hs : ¬ step.IsOn r ScreenStep.Sets s.state) :
    LostParent r (issue via step s).2.state := by
  obtain ⟨x, p, hx, hp, hdropped⟩ := h
  have hrun := sameEnd_issue ⟨rfl, rfl, reparented_self hx⟩ via ha hs
  obtain ⟨y, hy, hparent⟩ := hrun.scenes.state.parent
  have hevolves : Evolves s.state (Session.issue via step s).2.state :=
    keeps_issue via (keeps_perform fun v _ => admits_evolves v) s
  obtain ⟨es, hes⟩ := evolves_iff.mp hevolves
  exact ⟨y, p, hy, hparent.trans hp, hes.dropped hdropped⟩

theorem issue_severed (h : LostParent r s.state) (via : Via) {step : Step}
    (ha : ¬ step.IsOn r ScreenStep.Asks s.state) (hs : ¬ step.IsOn r ScreenStep.Sets s.state) :
    issue via step (severed r s) = ((issue via step s).1, severed r (issue via step s).2) := by
  have hbeside : Beside (Reparented r none) s (severed r s) := ⟨rfl, rfl, h.reparented none⟩
  have hrun := sameEnd_issue hbeside via ha hs
  exact Prod.ext hrun.result (hrun.scenes.eq hrun.scenes.state.eq)

/-- Of two decks, one has lost the parent of the screen, and the other has none for it. Or they are one. -/
def Bereft (r : Ref .screen) (d e : Deck) : Prop := e = d ∨ LostParent r d ∧ e = d.reparent r none

/-- Once the screen gets a parent or is told to have none, it does not matter which one it had lost. -/
theorem agrees_sets {call : ScreenStep} (hc : call.Sets) :
    Agrees (fun d e => LostParent r d ∧ e = d.reparent r none) (Bereft r) (performOnScreen r call) := by
  have hset (x : Option Parent) : Agrees (fun d e => LostParent r d ∧ e = d.reparent r none) (Bereft r)
      (done (setParent r x)) := by
    refine agrees_done (.modifyState fun {d e} h => .inl ?_)
    rw [h.2]
    exact reparent_reparent r none x d
  cases call with
  | parent name =>
    refine .state_bind fun {d e} h => ⟨?_, ?_⟩
    · rw [h.2, Reparented.names_eq]
    · dsimp only
      split
      · exact hset _
      · exact hset _
      · exact hset _
      · exact (Agrees.pure _).mono_left .inr
  | clearParent => exact hset none
  | _ => exact hc.elim

theorem agrees_perform_sets (step : Step) : Agrees (fun d e =>
    (LostParent r d ∧ e = d.reparent r none) ∧ step.IsOn r ScreenStep.Sets d) (Bereft r) (perform step) := by
  cases step with
  | onScreen name call =>
    refine .state_bind fun {d e} h => ⟨?_, ?_⟩
    · rw [h.1.2, Reparented.names_eq]
    · obtain ⟨-, hq, hsets⟩ := h
      rw [hq]
      exact (agrees_sets hsets).mono_left And.left
  | _ => exact fun _ _ h => h.state.2.elim

/-- Two sessions stay beside each other as long as none asks for the parent that was lost. -/
theorem bereft_issue (h : Beside (Bereft r) s t) (via : Via) {step : Step}
    (ha : LostParent r s.state → ¬ step.IsOn r ScreenStep.Asks s.state) :
    SameEnd (Bereft r) (issue via step s) (issue via step t) := by
  obtain hsame | ⟨hlost, hstate⟩ := h.state
  · obtain rfl : t = s := h.eq hsame
    exact ⟨rfl, rfl, rfl, .inl rfl⟩
  · by_cases hs : step.IsOn r ScreenStep.Sets s.state
    · exact agrees_issue via (agrees_perform_sets step) (fun h => .inr h.1) s t
        ⟨h.context, h.notices, ⟨hlost, hstate⟩, hs⟩
    · have hreparented : Reparented r none s.state t.state := hstate ▸ hlost.reparented none
      have hrun := sameEnd_issue ⟨h.context, h.notices, hreparented⟩ via (ha hlost) hs
      exact ⟨hrun.result, hrun.scenes.context, hrun.scenes.notices,
        .inr ⟨lostParent_issue hlost via (ha hlost) hs, hrun.scenes.state.eq⟩⟩

/-- What is replied to steps that are issued in turn, until one does not come back. -/
def issueAll : List (Via × Step) → Scene Deck → List (Except DispatchFailure Reply) × Scene Deck
  | [], s => ([], s)
  | (via, step) :: steps, s =>
    match issue via step s with
    | (.ok reply, t) => (reply :: (issueAll steps t).1, (issueAll steps t).2)
    | (.error _, t) => ([], t)

/-- No step asks for the parent of the screen while that is lost. -/
def Spares (r : Ref .screen) : List (Via × Step) → Scene Deck → Prop
  | [], _ => True
  | (via, step) :: steps, s => (LostParent r s.state → ¬ step.IsOn r ScreenStep.Asks s.state) ∧
      Spares r steps (issue via step s).2

/-- The two runs are compared step by step. They meet where the parent is set, and differ only where it is
asked for. -/
theorem bereft_issueAll {steps : List (Via × Step)} (hs : Spares r steps s) (h : Beside (Bereft r) s t) :
    (issueAll steps t).1 = (issueAll steps s).1 ∧
      Beside (Bereft r) (issueAll steps s).2 (issueAll steps t).2 := by
  induction steps generalizing s t with
  | nil => exact ⟨rfl, h⟩
  | cons x steps ih =>
    obtain ⟨via, step⟩ := x
    obtain ⟨hasks, hrest⟩ := hs
    have hstep := bereft_issue h via hasks
    rw [issueAll, issueAll]
    rcases hu : issue via step s with ⟨a, u⟩
    rcases hv : issue via step t with ⟨b, v⟩
    rw [hu] at hrest
    rw [hu, hv] at hstep
    obtain ⟨rfl, hbeside⟩ := hstep
    cases b with
    | error e => exact ⟨rfl, hbeside⟩
    | ok reply =>
      obtain ⟨hreplies, hend⟩ := ih hrest hbeside
      exact ⟨congrArg (reply :: ·) hreplies, hend⟩

/-- The parent is asked for before anything is done. -/
theorem perform_asks (h : LostParent r s.state) {step : Step} (ha : step.IsOn r ScreenStep.Asks s.state) :
    perform step s = (.ok (.failure (.invalidState .parentDropped)), s) := by
  have houtcome {a : Do Reply} (hb : Balks a s) :
      outcome a s = (.ok (.failure (.invalidState .parentDropped)), s) := by
    rw [outcome, Act.bind_apply, Act.attempt_apply, hb]
    rfl
  cases step with
  | onScreen name call =>
    obtain ⟨hq, hcall⟩ := ha
    rw [perform, named_apply_some hq]
    cases call with
    | enable => exact houtcome ((balks_enableBar h).bind _)
    | visible value => exact houtcome ((balks_setBarVisible h value).bind _)
    | isShown => exact houtcome ((balks_isShown h).bind _)
    | getProperty name => exact houtcome ((balks_getProperty h hcall).bind _)
    | _ => exact hcall.elim
  | _ => exact ha.elim

/-- A screen that has lost its parent refuses whatever asks for the parent, and nothing happens. All else
goes as if the screen had no parent, and once the parent is set or cleared, everything goes as if the lost one
had never been. -/
theorem lost_parent_matters_only_when_asked_for (h : LostParent r s.state) :
    (Balks (parent r) s ∧ Balks (isShown r) s ∧
      (∀ name, Property.ofName name = .ok .isShown → Balks (getProperty r name) s) ∧
      Balks (enableBar r) s ∧ ∀ value, Balks (setBarVisible r value) s) ∧
    (∀ step : Step, step.IsOn r ScreenStep.Asks s.state →
      perform step s = (.ok (.failure (.invalidState .parentDropped)), s)) ∧
    (∀ via step, ¬ step.IsOn r ScreenStep.Asks s.state → ¬ step.IsOn r ScreenStep.Sets s.state →
      issue via step (severed r s) = ((issue via step s).1, severed r (issue via step s).2) ∧
        LostParent r (issue via step s).2.state) ∧
    (∀ p, setParent r p (severed r s) = setParent r p s) ∧
    ∀ steps, Spares r steps s →
      (issueAll steps (severed r s)).1 = (issueAll steps s).1 ∧
        ((issueAll steps (severed r s)).2 = (issueAll steps s).2 ∨ LostParent r (issueAll steps s).2.state ∧
          (issueAll steps (severed r s)).2 = severed r (issueAll steps s).2) := by
  refine ⟨⟨balks_parent h, balks_isShown h, fun _ => balks_getProperty h, balks_enableBar h,
    balks_setBarVisible h⟩, fun step => perform_asks h, fun via step ha hs => ?_,
    fun p => setParent_severed r p s, fun steps hs => ?_⟩
  · exact ⟨issue_severed h via ha hs, lostParent_issue h via ha hs⟩
  · have hbeside : Beside (Bereft r) s (severed r s) := ⟨rfl, rfl, .inr ⟨h, rfl⟩⟩
    obtain ⟨hreplies, hend⟩ := bereft_issueAll hs hbeside
    exact ⟨hreplies, hend.state.imp hend.eq fun ⟨hlost, hstate⟩ => ⟨hlost, hend.eq hstate⟩⟩

def orphanedScreen : Scene Deck :=
  (issueAll [(.direct, .container "c" ⟨9⟩ .plain), (.direct, .openScreen "a" ⟨1⟩),
    (.direct, .onScreen "a" (.parent "c")), (.direct, .dropParent "c")] newSession).2

def adoption : List (Via × Step) :=
  [(.thread, .onScreen "a" .present), (.direct, .container "k" ⟨8⟩ .plain),
    (.ui, .onScreen "a" (.parent "k")), (.direct, .onScreen "a" .enable)]

theorem lostParent_orphanedScreen : LostParent ⟨0⟩ orphanedScreen.state :=
  ⟨_, .container ⟨0⟩, rfl, rfl, _, rfl, rfl⟩

theorem spares_adoption : Spares ⟨0⟩ adoption orphanedScreen := by
  refine ⟨fun _ h => h.2, fun _ h => h, fun _ h => h.2, fun h _ => ?_, trivial⟩
  -- The new container lives.
  refine HeldBy.not_lostParent (k := ⟨1⟩) ⟨?_, ?_⟩ h <;> decide +kernel

theorem adopted_screen_tells_new_container :
    let s := orphanedScreen
    LostParent ⟨0⟩ s.state ∧ Balks (enableBar ⟨0⟩) s ∧
      (issueAll adoption (severed ⟨0⟩ s)).1 = (issueAll adoption s).1 ∧
      (issueAll adoption s).2.state.toggles = [⟨⟨8⟩, ⟨1⟩, true⟩] := by
  intro s
  obtain ⟨hbalks, -, -, -, hruns⟩ := lost_parent_matters_only_when_asked_for lostParent_orphanedScreen
  have htold : (issueAll adoption s).2.state.toggles = [⟨⟨8⟩, ⟨1⟩, true⟩] := by decide +kernel
  exact ⟨lostParent_orphanedScreen, hbalks.2.2.2.1, (hruns adoption spares_adoption).1, htold⟩

end Session
end ScreenDeck
