import ScreenDeck.Proofs.Histories

/-! Sessions have histories. However its steps are issued, and whatever comes of them, what a
session leaves behind comes out of the deck with which it began. -/

namespace ScreenDeck.Session

open Deck
open Act (Composed ContextFree Keeps)

def Setup.deck (setup : Setup) (settings : Settings) : Deck :=
  let deck : Deck := {
    settings
    contentSize := setup.contentSize
    screenEngine := if setup.engine.isSome then .host else .immediate
    engineMode := setup.engine.getD .immediate }
  if setup.withPage then deck.openPage else deck

theorem start_eq_ok {setup : Setup} {s : Scene Deck} (h : setup.start = .ok s) :
    ∃ settings, setup.settings = .ok settings ∧
      s = { context := { mode := setup.mode }, state := setup.deck settings } := by
  rw [Setup.start] at h
  rcases hs : setup.settings.mapError Abort.failed with e | settings
  · simp [hs, bind, Except.bind] at h
  · have hset : setup.settings = .ok settings := by
      rcases hv : setup.settings with e | other
      · rw [hv] at hs
        cases hs
      · rw [hv] at hs
        cases hs
        rfl
    rcases hc : Context.launch setup.mode settings with e | context
    · simp [hs, hc, bind, Except.bind] at h
    · rw [Context.launch_eq_ok hc] at hc
      simp only [hs, hc, bind, Except.bind, pure, Except.pure, Except.ok.injEq] at h
      exact ⟨settings, hset, h.symm⟩

variable {R : Deck → Deck → Prop}

section Replies

variable [Act.Steady (Act.OnState R)]

theorem composed_named {α : Type} {names : Names → List (String × α)} {name : String}
    {k : α → Do Reply} (hk : ∀ a, Composed R (k a)) : Composed R (named names name k) := by
  refine Composed.state.bind fun d => ?_
  cases (names d.names).lookup name with
  | none => exact Composed.pure _
  | some a => exact hk a

theorem composed_namedChild {child : ChildName} {k : Child → Do Reply}
    (hk : ∀ c, Composed R (k c)) : Composed R (namedChild child k) := by
  cases child with
  | widget name => exact composed_named fun w => hk (.widget w)
  | screen name => exact composed_named fun s => hk (.screen s)

theorem composed_namedBar {bar : Option String} {k : Option (Ref .bar) → Do Reply}
    (hk : ∀ b, Composed R (k b)) : Composed R (namedBar bar k) := by
  cases bar with
  | none => exact hk none
  | some name => exact composed_named fun b => hk (some b)

theorem composed_done {a : Do Unit} (ha : Composed R a) : Composed R (done a) :=
  ha.bind fun _ => Composed.pure _

theorem composed_outcome {a : Do Reply} (ha : Composed R a) : Composed R (outcome a) := by
  refine ha.attempt.bind fun r => ?_
  rcases r with (_ | _ | _) | _
  · exact Composed.pure _
  · exact Composed.throw _
  · exact Composed.throw _
  · exact Composed.pure _

theorem composed_guarded {a : Do Reply} (ha : Composed R a) : Composed R (guarded a) := by
  refine ha.attempt.bind fun r => ?_
  rcases r with (_ | _ | _) | _
  · exact Composed.pure _
  · exact Composed.pure _
  · exact Composed.hang
  · exact Composed.pure _

theorem composed_withView {a : Do Reply} (ha : Composed R a) (view : Reply → Deck → Reply) :
    Composed R (withView a view) := by
  refine ha.bind fun r => ?_
  split
  · exact Composed.pure _
  · exact Composed.state.bind fun _ => Composed.pure _

end Replies

/-! What can come of a step. -/

def ScreenStep.Causes (step : ScreenStep) (v : Event) : Prop :=
  match step with
  | .present | .transition _ | .enable | .visible _ => v.Presents
  | .setProperty _ _ | .removeMenu => ∃ b, v = .attached b
  | .rotate raw => (DeviceOrientation.ofRaw raw).group.isSome ∧ ∃ size, v = .resized size
  | _ => False

/-- The step may bring this about. -/
def Step.Causes (step : Step) (v : Event) : Prop :=
  match step with
  | .openPage => v = .opened
  | .closePage => v = .closed
  | .resize size => v = .resized size
  | .setPageBar _ => ∃ b, v = .attached b
  | .setPageContent _ | .switch _ .invoke => ∃ g, v = .filled g
  | .notify raw | .trackerHandle _ raw =>
    (DeviceOrientation.ofRaw raw).group.isSome ∧ ∃ size, v = .resized size
  | .onScreen _ step => step.Causes v
  | .onPresenter _ (.present _) | .onPresenter _ (.transition _ _) => v.Presents
  | _ => False

def ScreenStep.Reshapes : ScreenStep → Prop
  | .addChild _ | .removeChild _ | .removeAt _ | .enable | .visible _ | .setProperty _ _
  | .removeMenu => True
  | _ => False

def ScreenStep.Itemizes : ScreenStep → Prop
  | .register _ | .enable | .visible _ | .setProperty _ _ | .removeMenu => True
  | _ => False

def ScreenStep.Stirs : ScreenStep → Prop
  | .parent _ | .clearParent | .enable | .visible _ => True
  | _ => False

def Step.Reshapes : Step → Prop
  | .onScreen _ step => step.Reshapes
  | .onGrid _ _ | .onTree _ _ => True
  | _ => False

def Step.Itemizes : Step → Prop
  | .onScreen _ step => step.Itemizes
  | .onManager _ _ => True
  | _ => False

def ScreenStep.Turns : ScreenStep → Prop
  | .enable | .visible _ => True
  | _ => False

theorem ScreenStep.Turns.stirs {step : ScreenStep} (h : step.Turns) : step.Stirs := by
  cases step <;> trivial

def ManagerStep.Turns : ManagerStep → Prop
  | .visible _ => True
  | _ => False

def Step.Turns : Step → Prop
  | .onScreen _ step => step.Turns
  | .onManager _ step => step.Turns
  | _ => False

theorem composed_onScreenParent [Walking R] (s : Ref .screen) (name : String) :
    Composed R (performOnScreen s (.parent name)) := by
  refine Composed.state.bind fun d => ?_
  dsimp only
  split
  · exact composed_done (composed_setParent s _)
  · exact composed_done (composed_setParent s _)
  · exact composed_done (composed_setParent s _)
  · exact Composed.pure _

/-- Only what a step may change is asked of the relation. -/
theorem composed_performOnScreen_of [Strolling R] (s : Ref .screen) {step : ScreenStep}
    (hv : ∀ v, step.Causes v → Admits R v) (hg : step.Reshapes → Reshaping R)
    (hi : step.Itemizes → ∀ m, Itemizing R m) (ht : step.Turns → Turning R) (hw : step.Stirs → Walking R) :
    Composed R (performOnScreen s step) := by
  cases step with
  | title value =>
    exact (composed_setTitle s value).bind fun _ => Composed.state.bind fun _ => Composed.pure _
  | setProperty name value =>
    have := hg trivial
    have := hi trivial
    exact composed_outcome (composed_done (composed_setProperty s name value fun b => hv _ ⟨b, rfl⟩))
  | getProperty name =>
    exact composed_outcome ((composed_getProperty s name).bind fun _ => Composed.pure _)
  | parent name =>
    have := hw trivial
    exact composed_onScreenParent s name
  | clearParent =>
    have := hw trivial
    exact composed_done (composed_setParent s none)
  | identity => exact Composed.state.bind fun _ => Composed.pure _
  | debug => exact Composed.state.bind fun _ => Composed.pure _
  | addChild child =>
    have := hg trivial
    rw [performOnScreen]
    exact composed_namedChild fun c => composed_outcome
      (Composed.state.bind fun _ => composed_done (composed_addChild _ c))
  | removeChild h =>
    have := hg trivial
    exact composed_outcome (Composed.state.bind fun _ => (composed_removeChild _ h).bind fun _ =>
      Composed.pure _)
  | removeAt i =>
    have := hg trivial
    exact composed_outcome (Composed.state.bind fun _ => (composed_removeChildAt _ i).bind fun _ =>
      Composed.state.bind fun _ => Composed.pure _)
  | cellOf widget => exact composed_named fun w => Composed.state.bind fun _ => Composed.pure _
  | present => exact composed_outcome (composed_done (composed_showScreen hv s))
  | transition kind => exact composed_outcome (composed_done (composed_showWithTransition hv s kind))
  | enable =>
    have := hg trivial
    have := hi trivial
    have := ht trivial
    have := hw trivial
    exact composed_outcome (composed_done (composed_enableBar hv s))
  | visible value =>
    have := hg trivial
    have := hi trivial
    have := ht trivial
    have := hw trivial
    exact composed_outcome (composed_done (composed_setBarVisible hv s value))
  | removeMenu =>
    have := hg trivial
    have := hi trivial
    exact composed_outcome (composed_done (composed_removeOptionsMenu s fun b => hv _ ⟨b, rfl⟩))
  | isShown => exact composed_outcome ((composed_isShown s).bind fun _ => Composed.pure _)
  | register item =>
    have := hi trivial
    exact composed_outcome ((composed_managerOf s).bind fun m =>
      (composed_registerItem m item).bind fun _ => Composed.pure _)
  | indexOf item =>
    exact Composed.state.bind fun _ => (composed_managerOf s).bind fun _ => Composed.pure _
  | rotate raw =>
    exact composed_outcome ((composed_rotate (fun hg size => hv _ ⟨hg, size, rfl⟩) s).bind fun _ =>
      Composed.pure _)
  | dispose => exact composed_done (composed_dispose s)

theorem composed_performOnScreen [Walking R] (s : Ref .screen) {step : ScreenStep}
    (hv : ∀ v, step.Causes v → Admits R v) (hg : step.Reshapes → Reshaping R)
    (hi : step.Itemizes → ∀ m, Itemizing R m) (ht : step.Turns → Turning R) :
    Composed R (performOnScreen s step) :=
  composed_performOnScreen_of s hv hg hi ht fun _ => inferInstance

section Walking

variable [Walking R]

theorem composed_rename {f : Names → Names}
    (hh : ∀ n, ((f n).subscriptions, (f n).trackers) = (n.subscriptions, n.trackers))
    (hf : ∀ n, ((f n).screens, (f n).trees, (f n).managers) = (n.screens, n.trees, n.managers)) :
    Composed R (rename f) := by
  simp only [Prod.mk.injEq] at hh hf
  exact composed_still (fun _ => .names _) fun d =>
    .of_eq (by simp [hearing, hh]) (by simp [furniture, hf]) rfl

omit [Walking R] in
theorem composed_changeGrid [Reshaping R] {α : Type} (g : Ref .grid) {f : Grid → α × Grid}
    (hf : GridMove fun x => (f x).2) : Composed R (changeGrid g f) :=
  composed_change fun d => spans_putGrid g hf d

theorem composed_performOnGrid [Reshaping R] (g : Ref .grid) (step : GridStep) :
    Composed R (performOnGrid g step) := by
  refine composed_withView ?_ _
  cases step with
  | reserve extent => exact (composed_changeGrid g (.reserve extent)).bind fun _ => Composed.pure _
  | release => exact (composed_changeGrid g .release).bind fun _ => Composed.pure _
  | pin => exact composed_done (composed_changeGrid g .pin)
  | add widget =>
    exact composed_named fun w => Composed.state.bind fun d =>
      composed_done (composed_changeGrid g (.add (widgetView d w)))
  | remove widget =>
    exact composed_named fun w => Composed.state.bind fun d =>
      (composed_changeGrid g (.remove (widgetView d w))).bind fun _ => Composed.pure _
  | cell widget => exact composed_named fun w => Composed.state.bind fun _ => Composed.pure _

theorem composed_performOnManager (m : Ref .manager) [Itemizing R m] {step : ManagerStep}
    (ht : step.Turns → Turning R) : Composed R (performOnManager m step) := by
  refine composed_withView ?_ _
  cases step with
  | visible value =>
    have := ht trivial
    exact (composed_setManagerVisible m value).bind fun _ => Composed.pure _
  | register item times =>
    refine .step (.bind .state fun d => ?_) (Keeps.state_bind fun s => ?_)
    · rcases (d.managers.get m).registry.registerTimes item times with ⟨_ | _ | _, registry⟩
      all_goals exact .bind (.modifyState _) fun _ => .pure _
    · have hm := spans_putRegistry (R := R) m item times s.state
      rcases hr : (s.state.managers.get m).registry.registerTimes item times with ⟨r, registry⟩
      rw [hr] at hm
      rcases r with _ | _ | _
      · exact hm
      · exact hm
      · exact hm
  | index item => exact Composed.state.bind fun _ => Composed.pure _
  | reset => exact (composed_resetManager m).bind fun _ => Composed.pure _

theorem composed_performOnTree [Reshaping R] (t : Ref .tree) (step : TreeStep) :
    Composed R (performOnTree t step) := by
  refine composed_withView ?_ _
  cases step with
  | add child =>
    exact composed_namedChild fun c => composed_outcome (composed_done (composed_addChild t c))
  | remove h => exact composed_outcome ((composed_removeChild t h).bind fun _ => Composed.pure _)
  | removeAt i =>
    exact composed_outcome ((composed_removeChildAt t i).bind fun _ => Composed.state.bind fun _ =>
      Composed.pure _)
  | debug => exact Composed.state.bind fun _ => Composed.pure _

theorem composed_performOnPresenter (p : Ref .presenter) {name : String} {step : PresenterStep}
    (hv : ∀ v, (Step.onPresenter name step).Causes v → Admits R v) :
    Composed R (performOnPresenter p step) := by
  refine composed_withView ?_ _
  cases step with
  | present bar =>
    exact composed_namedBar fun b => composed_outcome (composed_done (composed_present hv p b))
  | transition bar kind =>
    exact composed_namedBar fun b =>
      composed_outcome (composed_done (composed_presentWithTransition hv p b kind))
  | current => exact composed_outcome ((composed_isCurrentContent p).bind fun _ => Composed.pure _)

theorem composed_dropSwitch (position : Nat) :
    Composed R (Act.modifyState fun d => { d with pending := d.pending.eraseIdx position }) :=
  composed_still (fun _ => .drop position) fun _ => .of_eq rfl rfl rfl

theorem composed_performOnSwitch (position : Nat) (x : Switch) {step : SwitchStep}
    (hv : ∀ v, (Step.switch position step).Causes v → Admits R v) :
    Composed R (performOnSwitch position x step) := by
  cases step with
  | invoke =>
    exact (composed_dropSwitch position).bind fun _ =>
      composed_outcome ((composed_invoke fun g => hv _ ⟨g, rfl⟩).bind fun _ => Composed.pure _)
  | drop => exact composed_done (composed_dropSwitch position)
  | query => exact Composed.state.bind fun _ => Composed.pure _

theorem composed_nameWidget (name : String) (h : Handle) (sharing : Option ViewId) :
    Composed R (nameWidget name h sharing) := by
  refine Composed.bind ?_ fun _ => Composed.bind ?_ fun _ => Composed.state.bind fun _ =>
    Composed.pure _
  · refine composed_change fun d => Walking.still (.makeWidget h sharing) ?_
    cases sharing <;> exact .of_eq rfl rfl rfl
  · exact composed_rename (fun _ => rfl) fun _ => rfl

theorem composed_attach (name subscription : String) :
    Composed R (perform (.trackerAttach name subscription)) := by
  refine .step (.bind .state fun d => ?_) (Keeps.state_bind fun s => ?_)
  · cases d.names.trackers.lookup name with
    | none => exact .pure _
    | some t => exact fun _ _ => rfl
  · cases ht : s.state.names.trackers.lookup name with
    | none => exact spans_refl s.state
    | some t => exact Walking.attach ht subscription

theorem composed_release (name : String) : Composed R (perform (.subscriptionRelease name)) := by
  refine .step (.bind .state fun d => ?_) (Keeps.state_bind fun s => ?_)
  · cases d.names.subscriptions.lookup name with
    | none => exact .pure _
    | some x => exact fun _ _ => rfl
  · cases hx : s.state.names.subscriptions.lookup name with
    | none => exact spans_refl s.state
    | some x => exact Walking.releaseNamed hx

/-- Steps that do not ask for the context itself. -/
def Step.isPlain : Step → Bool
  | .shutdown | .servicesDebug => false
  | _ => true

/-- Only what a step may change is asked of the relation. -/
theorem composed_perform_of {step : Step} (hp : step.isPlain = true)
    (hv : ∀ v, step.Causes v → Admits R v) (hg : step.Reshapes → Reshaping R)
    (hi : step.Itemizes → ∀ m, Itemizing R m) (ht : step.Turns → Turning R) :
    Composed R (perform step) := by
  cases step with
  | widget name h sharing =>
    cases sharing with
    | none => exact composed_nameWidget name h none
    | some other =>
      exact composed_named fun w => Composed.state.bind fun _ => composed_nameWidget name h _
  | container name h mode =>
    refine (composed_change fun d => ?_).bind fun p =>
      composed_done (.modifyState fun d => spans_nameContainer name p d)
    exact Walking.still (.makeContainer _) (.of_eq rfl rfl rfl)
  | panel name h =>
    refine (composed_change fun d => ?_).bind fun p =>
      composed_done (.modifyState fun d => spans_namePanel name p d)
    exact Walking.still (.makePanel _) (.of_eq rfl rfl rfl)
  | containerShows name shown =>
    exact composed_named fun p => composed_done
      (composed_still (fun _ => .containerShows p shown) fun _ => .of_eq rfl rfl rfl)
  | dropParent name => exact (composed_change (spans_dropParent name)).bind fun _ => Composed.pure _
  | newBar name =>
    refine (composed_change fun d => ?_).bind fun _ => (composed_rename ?_ ?_).bind fun _ =>
      Composed.state.bind fun _ => Composed.pure _
    · exact Walking.still .makeBar (.of_sameBars rfl rfl (.makeBar d))
    · exact fun _ => rfl
    · exact fun _ => rfl
  | shutdown => cases hp
  | dropEvents => exact composed_done (composed_still (fun _ => .deafen) fun _ => .of_eq rfl rfl rfl)
  | servicesDebug => cases hp
  | post o category => exact composed_done (composed_post category _)
  | emit o h =>
    cases h with
    | none => exact (composed_post _ _).bind fun _ => Composed.pure _
    | some h => exact (composed_post _ _).bind fun _ => Composed.pure _
  | openPage => exact composed_done (.modifyState fun _ => hv .opened rfl .openPage)
  | closePage =>
    exact (composed_change fun _ => hv .closed rfl .closePage).bind fun _ => Composed.pure _
  | contentSize size =>
    refine Composed.bind ?_ fun _ => Composed.state.bind fun _ => Composed.pure _
    exact composed_still (fun _ => .contentSize size) fun _ => .of_eq rfl rfl rfl
  | resize size => exact composed_outcome (composed_done (composed_resizePage (hv _ rfl)))
  | pageSize => exact composed_outcome (composed_pageSize.bind fun _ => Composed.pure _)
  | pageBar =>
    exact composed_outcome (composed_pageBar.bind fun _ => Composed.state.bind fun _ => Composed.pure _)
  | pageContent =>
    exact composed_outcome (composed_pageContent.bind fun _ => Composed.state.bind fun _ =>
      Composed.pure _)
  | setPageBar bar =>
    exact composed_named fun b => composed_outcome (composed_done (composed_setPageBar (hv _ ⟨b, rfl⟩)))
  | setPageContent grid =>
    exact composed_named fun g =>
      composed_outcome (composed_done (composed_setPageContent (hv _ ⟨g, rfl⟩)))
  | notify raw =>
    exact composed_done (composed_notifyOrientation fun hg size => hv _ ⟨hg, size, rfl⟩)
  | block value => exact composed_done (composed_still (fun _ => .block value) fun _ => .of_eq rfl rfl rfl)
  | fault call mode => exact composed_done (composed_still (fun _ => .fault _) fun _ => .of_eq rfl rfl rfl)
  | switch position step =>
    refine Composed.state.bind fun d => ?_
    cases d.pending[position]? with
    | none => exact Composed.pure _
    | some x => exact composed_performOnSwitch position x hv
  | openScreen name h => exact composed_done (composed_openScreen name h)
  | dropScreen name => exact (composed_change (Walking.dropScreen name)).bind fun _ => Composed.pure _
  | onScreen name step => exact composed_named fun s => composed_performOnScreen s hv hg hi ht
  | grid name =>
    refine (composed_change fun d => ?_).bind fun _ => (composed_rename ?_ ?_).bind fun _ =>
      Composed.state.bind fun _ => Composed.pure _
    · exact Walking.still .makeGrid (still_makeGrid d)
    · exact fun _ => rfl
    · exact fun _ => rfl
  | onGrid name step =>
    have := hg trivial
    exact composed_named fun g => composed_performOnGrid g step
  | manager name => exact .step (fun _ _ => rfl) fun s => Walking.takeManager name s.state
  | onManager name step =>
    have := hi trivial
    exact composed_named fun m => composed_performOnManager m ht
  | tree name owner grid =>
    exact composed_named fun g =>
      .step (fun _ _ => rfl) fun s => Walking.takeTree name owner g s.state
  | onTree name step =>
    have := hg trivial
    exact composed_named fun t => composed_performOnTree t step
  | presenter name grid =>
    refine composed_named fun g => (composed_change fun d => ?_).bind
      fun _ => composed_done (composed_rename ?_ ?_)
    · exact Walking.still (.makePresenter g .host) (.of_eq rfl rfl rfl)
    · exact fun _ => rfl
    · exact fun _ => rfl
  | onPresenter name step => exact composed_named fun p => composed_performOnPresenter p hv
  | tracker name h => exact .step (fun _ _ => rfl) fun s => Walking.takeTracker name h s.state
  | trackerAttach name subscription => exact composed_attach name subscription
  | trackerHandle name raw =>
    exact composed_named fun t => composed_outcome
      ((composed_trackerHandle (fun hg size => hv _ ⟨hg, size, rfl⟩) t).bind fun _ => Composed.pure _)
  | trackerDrop name =>
    exact (composed_change (Walking.dropTracker name)).bind fun _ => Composed.pure _
  | subscriptionRelease name => exact composed_release name
  | subscriptionDrop name =>
    exact (composed_change (Walking.dropSubscription name)).bind fun _ => Composed.pure _

/-- A step keeps a relation that holds over the events it may cause, and over the changes of grids,
registries and flags that it may make. -/
theorem keeps_perform_of {step : Step} (hv : ∀ v, step.Causes v → Admits R v)
    (hg : step.Reshapes → Reshaping R) (hi : step.Itemizes → ∀ m, Itemizing R m)
    (ht : step.Turns → Turning R) : Keeps (Act.OnState R) (perform step) := by
  cases hp : step.isPlain with
  | true => exact (composed_perform_of hp hv hg hi ht).keeps
  | false =>
    cases step with
    | shutdown => exact Keeps.shutdown.bind fun _ => Keeps.context.bind fun _ => Keeps.pure _
    | servicesDebug => exact Keeps.context.bind fun _ => Keeps.state.bind fun _ => Keeps.pure _
    | _ => cases hp

end Walking

theorem composed_perform [Spanning R] {step : Step} (hp : step.isPlain = true)
    (hv : ∀ v, step.Causes v → Admits R v) : Composed R (perform step) :=
  composed_perform_of hp hv (fun _ => inferInstance) (fun _ _ => inferInstance) fun _ => inferInstance

theorem keeps_perform [Spanning R] {step : Step} (h : ∀ v, step.Causes v → Admits R v) :
    Keeps (Act.OnState R) (perform step) :=
  keeps_perform_of h (fun _ => inferInstance) (fun _ _ => inferInstance) fun _ => inferInstance

/-- A guarded action returns a reply, or it hangs. -/
theorem guarded_apply (a : Do Reply) (s : Scene Deck) :
    guarded a s = ((match (a s).1 with
      | .ok r => .ok r
      | .error (.failed f) => .ok (.failure f)
      | .error .panicked => .ok .panicked
      | .error .hung => .error .hung), (a s).2) := by
  rw [guarded, Act.bind_apply, Act.attempt_apply]
  rcases a s with ⟨(_ | _ | _) | _, t⟩ <;> rfl

theorem outcome_snd (a : Do Reply) (s : Scene Deck) : (outcome a s).2 = (a s).2 := by
  rw [outcome, Act.bind_apply, Act.attempt_apply]
  rcases a s with ⟨(_ | _ | _) | _, t⟩ <;> rfl

theorem done_snd (a : Do Unit) (s : Scene Deck) : (done a s).2 = (a s).2 := by
  rw [done, Act.bind_apply]
  rcases a s with ⟨_ | _, t⟩ <;> rfl

theorem withView_snd (a : Do Reply) (view : Reply → Deck → Reply) (s : Scene Deck) :
    (withView a view s).2 = (a s).2 := by
  rw [withView, Act.bind_apply]
  rcases a s with ⟨_ | reply, t⟩
  · rfl
  · cases reply <;> rfl

theorem replied_snd {α : Type} (a : Do α) (f : α → Reply) (s : Scene Deck) :
    ((do return f (← a) : Do Reply) s).2 = (a s).2 := by
  rw [Act.bind_apply]
  rcases a s with ⟨_ | _, t⟩ <;> rfl

theorem named_apply_some {α : Type} {names : Names → List (String × α)} {name : String}
    {k : α → Do Reply} {a : α} {s : Scene Deck}
    (h : (names s.state.names).lookup name = some a) :
    named names name k s = k a s := by
  rw [named, Act.bind_apply_ok (Act.state_apply s), h]

theorem named_apply_none {α : Type} {names : Names → List (String × α)} {name : String}
    {k : α → Do Reply} {s : Scene Deck} (h : (names s.state.names).lookup name = none) :
    named names name k s = (.ok .missing, s) := by
  rw [named, Act.bind_apply_ok (Act.state_apply s), h]
  rfl

/-! What a step keeps, it keeps in whichever way it is issued. -/

section Issuing

variable {T : Scene Deck → Scene Deck → Prop} [Act.Steady T]

theorem keeps_named {α : Type} {names : Names → List (String × α)} {name : String}
    {k : α → Do Reply} (hk : ∀ a, Keeps T (k a)) : Keeps T (named names name k) := by
  refine Keeps.state.bind fun d => ?_
  cases (names d.names).lookup name with
  | none => exact Keeps.pure _
  | some a => exact hk a

theorem keeps_namedBar {bar : Option String} {k : Option (Ref .bar) → Do Reply}
    (hk : ∀ b, Keeps T (k b)) : Keeps T (namedBar bar k) := by
  cases bar with
  | none => exact hk none
  | some name => exact keeps_named fun b => hk (some b)

theorem keeps_done {a : Do Unit} (ha : Keeps T a) : Keeps T (done a) :=
  ha.bind fun _ => Keeps.pure _

omit [Act.Steady T] in
theorem keeps_outcome {a : Do Reply} (ha : Keeps T a) : Keeps T (outcome a) := by
  intro s
  rw [outcome_snd]
  exact ha s

theorem keeps_withView {a : Do Reply} (ha : Keeps T a) (view : Reply → Deck → Reply) :
    Keeps T (withView a view) := by
  refine ha.bind fun r => ?_
  split
  · exact Keeps.pure _
  · exact Keeps.state.bind fun _ => Keeps.pure _

omit [Act.Steady T] in
theorem keeps_guarded {a : Do Reply} (ha : Keeps T a) : Keeps T (guarded a) := by
  intro s
  rw [guarded_apply]
  exact ha s

theorem keeps_issue (via : Via) {step : Step} (h : Keeps T (perform step)) :
    Keeps T (issue via step) := by
  have hg : Keeps T (guarded (perform step)) := keeps_guarded h
  cases via with
  | direct => exact hg.bind fun _ => Keeps.pure _
  | thread => exact (hg.onThread .helper).bind fun _ => Keeps.pure _
  | ui =>
    refine hg.runSync.attempt.bind fun r => ?_
    split
    · exact Keeps.pure _
    · exact Keeps.pure _
    · exact Keeps.hang

theorem keeps_observeAll {steps : List (Via × Step)}
    (h : ∀ x ∈ steps, Keeps T (observe x.1 x.2)) (s : Scene Deck) : T s (observeAll steps s).2 := by
  induction steps generalizing s with
  | nil => exact Act.Steady.refl s
  | cons x steps ih =>
    obtain ⟨via, step⟩ := x
    have hstep := h (via, step) List.mem_cons_self s
    rw [observeAll]
    rcases hr : observe via step s with ⟨r, t⟩
    rw [hr] at hstep
    cases r with
    | ok o => exact Act.Steady.trans hstep (ih (fun x hx => h x (List.mem_cons_of_mem _ hx)) t)
    | error e => exact hstep

end Issuing

def look (step : Step) (reply : Reply) : Do Observation := do
  let notices ← takeNotices
  let screen ← match step.subject with
    | none => pure none
    | some name =>
      match (← Act.state).names.screens.lookup name with
      | none => pure (some none)
      | some s => pure (some (some (← screenView s)))
  let d ← Act.state
  Act.modifyState fun d =>
    { d with outbox := d.outbox.map fun _ => [], toggles := [], transitions := [] }
  return .seen reply (pageView d) d.orientation.count d.outbox d.toggles d.transitions notices screen

theorem observe_eq (via : Via) (step : Step) : observe via step = (do
    match ← issue via step with
    | .error d => return .refused d
    | .ok reply => look step reply) := rfl

section Looking

variable [Walking R]

theorem composed_screenView (s : Ref .screen) : Composed R (screenView s) := by
  refine (composed_parent s).attempt.bind fun _ => Composed.bind ?_ fun _ =>
    Composed.state.bind fun _ => Composed.pure _
  exact composed_guarded (composed_outcome ((composed_isShown s).bind fun _ => Composed.pure _))

theorem composed_takeNotices : Composed R takeNotices :=
  .step (fun _ _ => rfl) fun s => spans_refl s.state

theorem composed_look (step : Step) (reply : Reply) : Composed R (look step reply) := by
  have hforget : Composed R (Act.modifyState fun d : Deck =>
      { d with outbox := d.outbox.map fun _ => [], toggles := [], transitions := [] }) :=
    composed_still (fun _ => .forget) fun _ => .of_eq rfl rfl rfl
  have hseen (k : Deck → Observation) : Composed R (do
      let d ← Act.state
      Act.modifyState fun d =>
        { d with outbox := d.outbox.map fun _ => [], toggles := [], transitions := [] }
      return k d) :=
    Composed.state.bind fun _ => hforget.bind fun _ => Composed.pure _
  refine composed_takeNotices.bind fun notices => ?_
  cases step.subject with
  | none => exact (Composed.pure _).bind fun _ => hseen _
  | some name =>
    refine Composed.state.bind fun d => ?_
    cases d.names.screens.lookup name with
    | none => exact (Composed.pure _).bind fun _ => hseen _
    | some s => exact (composed_screenView s).bind fun _ => (Composed.pure _).bind fun _ => hseen _

end Looking

theorem keeps_observe_of {T : Scene Deck → Scene Deck → Prop} [Act.Steady T] (via : Via) {step : Step}
    (h : Keeps T (perform step)) (hl : ∀ reply, Keeps T (look step reply)) :
    Keeps T (observe via step) := by
  rw [observe_eq]
  refine (keeps_issue via h).bind fun r => ?_
  cases r with
  | error d => exact Keeps.pure _
  | ok reply => exact hl reply

variable [Spanning R]

theorem keeps_observe (via : Via) {step : Step} (h : ∀ v, step.Causes v → Admits R v) :
    Keeps (Act.OnState R) (observe via step) :=
  keeps_observe_of via (keeps_perform h) fun reply => (composed_look step reply).keeps

theorem spans_observeAll {steps : List (Via × Step)}
    (h : ∀ x ∈ steps, ∀ v, x.2.Causes v → Admits R v) (s : Scene Deck) :
    R s.state (observeAll steps s).2.state :=
  keeps_observeAll (T := Act.OnState R) (fun x hx => keeps_observe x.1 (h x hx)) s

end ScreenDeck.Session
