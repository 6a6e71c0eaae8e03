import ScreenDeck.Proofs.HeedlessActions
import ScreenDeck.Proofs.SessionHistories

/-! Steps of a session that take no heed of the parent of a screen, in whichever way they are issued. -/

namespace ScreenDeck.Session

open Deck
open Act (Agrees Beside SameEnd)

variable {α : Type} {r q : Ref .screen} {p : Option Parent}

theorem heedless_named {names : Names → List (String × α)} {name : String} {k : α → Do Reply}
    (hk : ∀ a, Heedless r p (k a)) : Heedless r p (named names name k) := by
  refine heedless_read (fun _ => rfl) fun d => ?_
  cases (names d.names).lookup name with
  | none => exact .pure _
  | some a => exact hk a

theorem heedless_namedChild {child : ChildName} {k : Child → Do Reply} (hk : ∀ c, Heedless r p (k c)) :
    Heedless r p (namedChild child k) := by
  cases child with
  | widget name => exact heedless_named fun w => hk (.widget w)
  | screen name => exact heedless_named fun s => hk (.screen s)

theorem heedless_namedBar {bar : Option String} {k : Option (Ref .bar) → Do Reply}
    (hk : ∀ b, Heedless r p (k b)) : Heedless r p (namedBar bar k) := by
  cases bar with
  | none => exact hk none
  | some name => exact heedless_named fun b => hk (some b)

theorem heedless_rename (f : Names → Names) : Heedless r p (rename f) :=
  heedless_elsewhere (fun _ => rfl) fun _ => rfl

section Closed

variable {P R : Deck → Deck → Prop} {a : Do Reply}

theorem agrees_done {a : Do Unit} (ha : Agrees P R a) : Agrees P R (done a) := ha.bind fun _ => .pure _

theorem agrees_outcome (ha : Agrees P R a) : Agrees P R (outcome a) := by
  refine ha.attempt.bind fun result => ?_
  rcases result with (_ | _ | _) | _
  · exact .pure _
  · exact .throw _
  · exact .throw _
  · exact .pure _

theorem agrees_guarded (ha : Agrees P R a) : Agrees P R (guarded a) := by
  refine ha.attempt.bind fun result => ?_
  rcases result with (_ | _ | _) | _
  · exact .pure _
  · exact .pure _
  · exact .hang
  · exact .pure _

theorem agrees_issue (via : Via) {step : Step} (h : Agrees P R (perform step))
    (hPR : ∀ {d e}, P d e → R d e) : Agrees P R (issue via step) := by
  have hguarded := agrees_guarded h
  cases via with
  | direct => exact hguarded.bind fun _ => .pure _
  | thread => exact (hguarded.onThread .helper).bind fun _ => .pure _
  | ui =>
    refine (hguarded.runSync hPR).attempt.bind fun result => ?_
    split
    · exact .pure _
    · exact .pure _
    · exact .hang

end Closed

/-- The views that steps reply with do not show the parent. -/
theorem heedless_withView {a : Do Reply} (ha : Heedless r p a) {view : Reply → Deck → Reply}
    (hv : ∀ {d e} reply, Reparented r p d e → view reply e = view reply d) :
    Heedless r p (withView a view) := by
  refine ha.bind fun reply => ?_
  split
  · exact .pure _
  · refine .state_bind fun h => ⟨?_, .pure _⟩
    rw [hv _ h]

def ScreenStep.Asks : ScreenStep → Prop
  | .enable | .visible _ | .isShown => True
  | .getProperty name => Property.ofName name = .ok .isShown
  | _ => False

def ScreenStep.Sets : ScreenStep → Prop
  | .parent _ | .clearParent => True
  | _ => False

theorem heedless_onTree {k : Ref .tree → Do Reply} (q : Ref .screen) (hk : ∀ t, Heedless r p (k t)) :
    Heedless r p (do let tree := ((← Act.state).screens.get q).tree; k tree) := by
  refine .state_bind fun h => ⟨?_, hk _⟩
  obtain ⟨_, hq⟩ := h.get q
  simp only [hq]

/-- A step does not depend on the parent of the screen unless it asks for it or sets it. -/
theorem heedless_performOnScreen {step : ScreenStep} (h : q = r → ¬ step.Asks ∧ ¬ step.Sets) :
    Heedless r p (performOnScreen q step) := by
  have hother (hs : step.Asks ∨ step.Sets) : q ≠ r := fun hq =>
    hs.elim (h hq).1 (h hq).2
  cases step with
  | title value =>
    refine (heedless_setTitle q value).bind fun _ => .state_bind fun h => ⟨?_, .pure _⟩
    obtain ⟨_, hq⟩ := h.get q
    simp only [hq]
  | setProperty name value => exact agrees_outcome (agrees_done (heedless_setProperty q name value))
  | getProperty name =>
    exact agrees_outcome ((heedless_getProperty fun hq => (h hq).1).bind fun _ => .pure _)
  | parent name =>
    refine heedless_read (fun _ => rfl) fun d => ?_
    dsimp only
    have hset (x : Option Parent) : Heedless r p (done (setParent q x)) :=
      agrees_done (heedless_setParent (hother (.inr trivial)) x)
    split
    · exact hset _
    · exact hset _
    · exact hset _
    · exact .pure _
  | clearParent => exact agrees_done (heedless_setParent (hother (.inr trivial)) none)
  | identity =>
    refine .state_bind fun h => ⟨?_, .pure _⟩
    obtain ⟨_, hq⟩ := h.get q
    simp only [hq, h.viewOf]
  | debug =>
    refine .state_bind fun h => ⟨?_, .pure _⟩
    obtain ⟨_, hq⟩ := h.get q
    simp only [screenText, hq, h.barVisible]
    rw [h.eq]
    rfl
  | addChild child =>
    exact heedless_namedChild fun c => agrees_outcome (heedless_onTree q fun t =>
      agrees_done (heedless_addChild t c))
  | removeChild handle =>
    refine agrees_outcome (heedless_onTree q (k := fun t => do
      return .truth (← removeChild t handle).isSome) fun t => ?_)
    exact (heedless_removeChild t handle).bind fun _ => .pure _
  | removeAt index =>
    refine agrees_outcome (heedless_onTree q (k := fun t => do
      let found ← removeChildAt t index
      let d ← Act.state
      return Reply.option (fun c => .number (d.handleOf c).raw.toInt) found) fun t => ?_)
    refine (heedless_removeChildAt t index).bind fun found => .state_bind fun h => ⟨?_, .pure _⟩
    simp only [h.handleOf]
  | cellOf widget =>
    refine heedless_named fun w => .state_bind fun h => ⟨?_, .pure _⟩
    obtain ⟨_, hq⟩ := h.get q
    simp only [hq]
    rw [h.eq]
    rfl
  | present => exact agrees_outcome (agrees_done (heedless_showScreen q))
  | transition kind => exact agrees_outcome (agrees_done (heedless_showWithTransition q kind))
  | enable => exact agrees_outcome (agrees_done (heedless_enableBar (hother (.inl trivial))))
  | visible value =>
    exact agrees_outcome (agrees_done (heedless_setBarVisible (hother (.inl trivial)) value))
  | removeMenu => exact agrees_outcome (agrees_done (heedless_removeOptionsMenu q))
  | isShown =>
    exact agrees_outcome ((heedless_isShown (hother (.inl trivial))).bind fun _ => .pure _)
  | register item =>
    exact agrees_outcome ((heedless_managerOf q).bind fun m => (heedless_registerItem m item).bind fun _ =>
      .pure _)
  | indexOf item =>
    refine .state_bind fun h => ⟨?_, ?_⟩
    · rw [h.eq]
      rfl
    · exact (heedless_managerOf q).bind fun _ => .pure _
  | rotate raw => exact agrees_outcome ((heedless_rotate q _).bind fun _ => .pure _)
  | dispose => exact agrees_done (heedless_dispose q)

theorem heedless_changeGrid {f : Grid → α × Grid} (g : Ref .grid) : Heedless r p (changeGrid g f) :=
  heedless_change_elsewhere (fun _ => rfl) fun _ => rfl

theorem heedless_performOnGrid (g : Ref .grid) (step : GridStep) : Heedless r p (performOnGrid g step) := by
  refine heedless_withView ?_ fun _ h => by rw [h.eq]; rfl
  cases step with
  | reserve extent => exact (heedless_changeGrid g).bind fun _ => .pure _
  | release => exact (heedless_changeGrid g).bind fun _ => .pure _
  | pin => exact agrees_done (heedless_changeGrid g)
  | add widget =>
    exact heedless_named fun w => heedless_read (fun _ => rfl) fun _ => agrees_done (heedless_changeGrid g)
  | remove widget =>
    exact heedless_named fun w => heedless_read (fun _ => rfl) fun _ =>
      (heedless_changeGrid g).bind fun _ => .pure _
  | cell widget => exact heedless_named fun w => heedless_read (fun _ => rfl) fun _ => .pure _

theorem heedless_performOnManager (m : Ref .manager) (step : ManagerStep) :
    Heedless r p (performOnManager m step) := by
  refine heedless_withView ?_ fun _ h => by rw [h.eq]; rfl
  cases step with
  | visible value => exact (heedless_setManagerVisible m value).bind fun _ => .pure _
  | register item times =>
    refine heedless_read (fun _ => rfl) fun d => ?_
    rcases (d.managers.get m).registry.registerTimes item times with ⟨outcome, registry⟩
    exact .bind (heedless_elsewhere (fun _ => rfl) fun _ => rfl) fun _ => .pure _
  | index item => exact heedless_read (fun _ => rfl) fun _ => .pure _
  | reset => exact (heedless_resetManager m).bind fun _ => .pure _

theorem childView_of_reparented {d e : Deck} (h : Reparented r p d e) (c : Child) :
    childView e c = childView d c := by
  rw [childView, childView, h.handleOf, h.viewOf]

theorem heedless_performOnTree (t : Ref .tree) (step : TreeStep) : Heedless r p (performOnTree t step) := by
  refine heedless_withView ?_ fun {d e} _ h => ?_
  · cases step with
    | add child =>
      exact heedless_namedChild fun c => agrees_outcome (agrees_done (heedless_addChild t c))
    | remove handle =>
      exact agrees_outcome ((heedless_removeChild t handle).bind fun _ => .pure _)
    | removeAt index =>
      refine agrees_outcome ((heedless_removeChildAt t index).bind fun found =>
        .state_bind fun h => ⟨?_, .pure _⟩)
      simp only [childView_of_reparented h]
    | debug => exact heedless_read (fun _ => rfl) fun _ => .pure _
  · have hviews : childView e = childView d := funext (childView_of_reparented h)
    rw [hviews, h.eq]
    rfl

theorem heedless_performOnPresenter (x : Ref .presenter) (step : PresenterStep) :
    Heedless r p (performOnPresenter x step) := by
  refine heedless_withView ?_ fun _ h => by rw [h.eq]; rfl
  cases step with
  | present bar => exact heedless_namedBar fun b => agrees_outcome (agrees_done (heedless_present x b))
  | transition bar kind =>
    exact heedless_namedBar fun b => agrees_outcome (agrees_done (heedless_presentWithTransition x b kind))
  | current => exact agrees_outcome ((heedless_isCurrentContent x).bind fun _ => .pure _)

theorem heedless_performOnSwitch (position : Nat) (x : Switch) (step : SwitchStep) :
    Heedless r p (performOnSwitch position x step) := by
  cases step with
  | invoke =>
    exact .bind (heedless_elsewhere (fun _ => rfl) fun _ => rfl) fun _ =>
      agrees_outcome ((heedless_invoke x).bind fun _ => .pure _)
  | drop => exact agrees_done (heedless_elsewhere (fun _ => rfl) fun _ => rfl)
  | query => exact heedless_read (fun _ => rfl) fun _ => .pure _

theorem heedless_nameWidget (name : String) (handle : Handle) (sharing : Option ViewId) :
    Heedless r p (nameWidget name handle sharing) := by
  have hmade : Heedless r p (change (makeWidget handle sharing)) := by
    cases sharing <;> exact heedless_change_elsewhere (fun _ => rfl) fun _ => rfl
  exact hmade.bind fun w => (heedless_rename _).bind fun _ => heedless_read (fun _ => rfl) fun _ => .pure _

/-- Steps that are not on a screen never ask for parents. -/
theorem heedless_perform {step : Step} (h : ∀ name call, step ≠ .onScreen name call) :
    Heedless r p (perform step) := by
  cases step with
  | widget name handle sharing =>
    cases sharing with
    | none => exact heedless_nameWidget name handle none
    | some other =>
      exact heedless_named fun w => heedless_read (fun _ => rfl) fun _ => heedless_nameWidget name handle _
  | container name handle mode =>
    exact .bind (heedless_change_elsewhere (fun _ => rfl) fun _ => rfl) fun k =>
      agrees_done (.modifyState fun h => h.nameContainer name k)
  | panel name handle =>
    exact .bind (heedless_change_elsewhere (fun _ => rfl) fun _ => rfl) fun k =>
      agrees_done (.modifyState fun h => h.namePanel name k)
  | containerShows name shown =>
    exact heedless_named fun k => agrees_done (heedless_elsewhere (fun _ => rfl) fun _ => rfl)
  | dropParent name => exact .bind (heedless_change fun h => h.dropParent name) fun _ => .pure _
  | newBar name =>
    exact .bind (heedless_change_elsewhere (fun _ => rfl) fun _ => rfl) fun b =>
      (heedless_rename _).bind fun _ => heedless_read (fun _ => rfl) fun _ => .pure _
  | shutdown => exact Agrees.shutdown.bind fun _ => .context_bind fun _ => .pure _
  | dropEvents => exact agrees_done (heedless_elsewhere (fun _ => rfl) fun _ => rfl)
  | servicesDebug => exact .context_bind fun _ => heedless_read (fun _ => rfl) fun _ => .pure _
  | post orientation category => exact agrees_done (heedless_post category _)
  | emit orientation handle =>
    cases handle with
    | none => exact (heedless_post _ _).bind fun _ => .pure _
    | some handle => exact (heedless_post _ _).bind fun _ => .pure _
  | openPage => exact agrees_done (heedless_elsewhere (fun _ => rfl) fun _ => rfl)
  | closePage => exact .bind (heedless_change_elsewhere (fun _ => rfl) fun _ => rfl) fun _ => .pure _
  | contentSize size =>
    exact .bind (heedless_elsewhere (fun _ => rfl) fun _ => rfl) fun _ =>
      heedless_read (fun _ => rfl) fun _ => .pure _
  | resize size => exact agrees_outcome (agrees_done (heedless_resizePage size))
  | pageSize => exact agrees_outcome (heedless_pageSize.bind fun _ => .pure _)
  | pageBar =>
    exact agrees_outcome (heedless_pageBar.bind fun _ => heedless_read (fun _ => rfl) fun _ => .pure _)
  | pageContent =>
    exact agrees_outcome (heedless_pageContent.bind fun _ => heedless_read (fun _ => rfl) fun _ => .pure _)
  | setPageBar bar => exact heedless_named fun b => agrees_outcome (agrees_done (heedless_setPageBar b))
  | setPageContent grid =>
    exact heedless_named fun g => agrees_outcome (agrees_done (heedless_setPageContent g))
  | notify raw => exact agrees_done (heedless_notifyOrientation _)
  | block value => exact agrees_done (heedless_elsewhere (fun _ => rfl) fun _ => rfl)
  | fault call mode => exact agrees_done (heedless_elsewhere (fun _ => rfl) fun _ => rfl)
  | switch position step =>
    refine heedless_read (fun _ => rfl) fun d => ?_
    cases d.pending[position]? with
    | none => exact .pure _
    | some x => exact heedless_performOnSwitch position x step
  | openScreen name handle => exact agrees_done (heedless_openScreen name handle)
  | dropScreen name => exact .bind (heedless_change fun h => h.dropScreen name) fun _ => .pure _
  | onScreen name step => exact absurd rfl (h name step)
  | grid name =>
    exact .bind (heedless_change_elsewhere (fun _ => rfl) fun _ => rfl) fun g =>
      (heedless_rename _).bind fun _ => heedless_read (fun _ => rfl) fun _ => .pure _
  | onGrid name step => exact heedless_named fun g => heedless_performOnGrid g step
  | manager name =>
    exact .bind (heedless_change_elsewhere (fun _ => rfl) fun _ => rfl) fun m =>
      agrees_done (heedless_rename _)
  | onManager name step => exact heedless_named fun m => heedless_performOnManager m step
  | tree name owner grid =>
    exact heedless_named fun g => .bind (heedless_change_elsewhere (fun _ => rfl) fun _ => rfl) fun t =>
      agrees_done (.modifyState fun h => h.nameTree name t)
  | onTree name step => exact heedless_named fun t => heedless_performOnTree t step
  | presenter name grid =>
    exact heedless_named fun g => .bind (heedless_change_elsewhere (fun _ => rfl) fun _ => rfl) fun x =>
      agrees_done (heedless_rename _)
  | onPresenter name step => exact heedless_named fun x => heedless_performOnPresenter x step
  | tracker name handle =>
    exact .bind (heedless_change_elsewhere (fun _ => rfl) fun _ => rfl) fun t =>
      agrees_done (.modifyState fun h => h.nameTracker name t)
  | trackerAttach name subscription =>
    exact heedless_named fun t => .bind (heedless_change_elsewhere (fun _ => rfl) fun _ => rfl) fun x =>
      agrees_done (.modifyState fun h => h.nameSubscription subscription x)
  | trackerHandle name raw =>
    exact heedless_named fun t => agrees_outcome ((heedless_trackerHandle t _).bind fun _ => .pure _)
  | trackerDrop name => exact .bind (heedless_change fun h => h.dropTracker name) fun _ => .pure _
  | subscriptionRelease name =>
    exact heedless_named fun x => .bind (heedless_change fun h => h.releaseNamed name x) fun _ => .pure _
  | subscriptionDrop name =>
    exact .bind (heedless_change fun h => h.dropSubscription name) fun _ => .pure _

/-- The step is of this kind, and about the screen. -/
def Step.IsOn (r : Ref .screen) (kind : ScreenStep → Prop) (d : Deck) : Step → Prop
  | .onScreen name step => d.names.screens.lookup name = some r ∧ kind step
  | _ => False

theorem agrees_perform (step : Step) : Agrees (fun d e => Reparented r p d e ∧
    ¬ step.IsOn r ScreenStep.Asks d ∧ ¬ step.IsOn r ScreenStep.Sets d) (Reparented r p) (perform step) := by
  by_cases hs : ∀ name call, step ≠ .onScreen name call
  · exact (heedless_perform hs).mono_left And.left
  · obtain ⟨name, call, rfl⟩ : ∃ name call, step = .onScreen name call := by simpa using hs
    refine .state_bind fun {d e} h => ⟨?_, ?_⟩
    · rw [h.1.eq, Reparented.names_eq]
    · obtain ⟨-, hasks, hsets⟩ := h
      cases hq : d.names.screens.lookup name with
      | none => exact (Agrees.pure _).mono_left And.left
      | some q =>
        refine (heedless_performOnScreen fun hqr => ?_).mono_left And.left
        subst hqr
        exact ⟨fun ha => hasks ⟨hq, ha⟩, fun ha => hsets ⟨hq, ha⟩⟩

theorem sameEnd_issue {s t : Scene Deck} (h : Beside (Reparented r p) s t) (via : Via) {step : Step}
    (ha : ¬ step.IsOn r ScreenStep.Asks s.state) (hs : ¬ step.IsOn r ScreenStep.Sets s.state) :
    SameEnd (Reparented r p) (issue via step s) (issue via step t) :=
  agrees_issue via (agrees_perform step) And.left s t ⟨h.context, h.notices, h.state, ha, hs⟩

end ScreenDeck.Session
