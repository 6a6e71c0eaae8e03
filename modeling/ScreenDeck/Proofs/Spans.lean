import ScreenDeck.Proofs.Stillness

/-! Every action on a deck is composed of steps, however it ends and on whichever thread it runs. A
spanning relation holds over a whole action if it admits the events that can come of it. -/

namespace ScreenDeck.Deck

open Act (Composed ContextFree Keeps)

variable {R : Deck → Deck → Prop}

theorem composed_change {α : Type} {f : Deck → α × Deck} (hf : ∀ d, R d (f d).2) :
    Composed R (change f) := .step (fun _ _ => rfl) fun s => hf s.state

theorem composed_still [Walking R] {f : Deck → Deck} (hm : ∀ d, Move d none (f d))
    (hs : ∀ d, Still d (f d)) : Composed R (Act.modifyState f) :=
  .modifyState fun d => Walking.still (hm d) (hs d)

/-! Calls on the host. -/

section PageCalls

variable [Act.Steady (Act.OnState R)]

theorem composed_consult (call : HostCall) : Composed R (consult call) := by
  refine Composed.state.bind fun d => ?_
  cases d.faults call with
  | pass => exact Composed.pure ()
  | refuse => exact Composed.fail _
  | panic => exact Composed.panic

theorem composed_activePage : Composed R activePage := by
  refine Composed.state.bind fun d => ?_
  cases d.page with
  | none => exact Composed.fail _
  | some page => exact Composed.pure page

theorem changePage_apply (f : Page → Page) (s : Scene Deck) :
    changePage f s = match s.state.page with
      | some page => (.ok (), { s with state := { s.state with page := some (f page) } })
      | none => (.error (.failed (.invalidState .noActivePage)), s) := by
  cases hp : s.state.page <;>
    simp only [changePage, activePage, Act.bind_apply, Act.state_apply, hp, Act.fail_apply,
      Act.pure_apply, Act.modifyState_apply]

theorem composed_changePage {f : Page → Page}
    (hf : ∀ {d : Deck} {page : Page}, d.page = some page → R d { d with page := some (f page) }) :
    Composed R (changePage f) := by
  refine .step (fun s c => ?_) fun s => ?_
  · rw [changePage_apply, changePage_apply]
    cases s.state.page <;> rfl
  · rw [changePage_apply]
    cases hp : s.state.page with
    | none => exact Act.Steady.refl s
    | some page => exact hf hp

theorem composed_setPageBar_of (b : Ref .bar) (hf : ∀ {d : Deck} {page : Page}, d.page = some page →
    R d { d with page := some { page with bar := some b } }) : Composed R (setPageBar b) :=
  (composed_consult _).bind fun _ => composed_changePage hf

theorem composed_setPageContent_of (g : Ref .grid) (hf : ∀ {d : Deck} {page : Page},
    d.page = some page → R d { d with page := some { page with content := some g } }) :
    Composed R (setPageContent g) :=
  (composed_consult _).bind fun _ => composed_changePage hf

theorem composed_pageSize : Composed R pageSize :=
  (composed_consult _).bind fun _ => composed_activePage.bind fun _ => Composed.pure _

theorem composed_pageBar : Composed R pageBar :=
  composed_activePage.bind fun _ => Composed.pure _

theorem composed_pageContent : Composed R pageContent :=
  (composed_consult _).bind fun _ => composed_activePage.bind fun _ => Composed.pure _

theorem composed_resizePage {size : Size} (h : Admits R (.resized size)) :
    Composed R (resizePage size) :=
  (composed_consult _).bind fun _ => composed_changePage fun hp => h (.resize hp size)

theorem composed_setPageBar {b : Ref .bar} (h : Admits R (.attached b)) : Composed R (setPageBar b) :=
  composed_setPageBar_of b fun hp => h (.attach hp b)

theorem composed_setPageContent {g : Ref .grid} (h : Admits R (.filled g)) :
    Composed R (setPageContent g) := composed_setPageContent_of g fun hp => h (.fill hp g)

theorem composed_isCurrentContent (p : Ref .presenter) : Composed R (isCurrentContent p) :=
  composed_pageContent.bind fun _ => Composed.state.bind fun _ => Composed.pure _

end PageCalls

/-! Engines. -/

section Engines

variable [Act.Steady (Act.OnState R)] {x : Switch} (hf : ∀ g, Composed R (setPageContent g))
include hf

theorem composed_invoke_of : Composed R (invoke x) := by
  refine Composed.bind (Composed.runSync ?_) fun switched => ?_
  · refine Composed.state.bind fun d => Composed.ite ?_ (Composed.pure _)
    exact (hf _).bind fun _ => Composed.pure _
  · cases switched with
    | false => exact (Composed.note _).bind fun _ => Composed.pure _
    | true => exact Composed.pure _

theorem composed_runImmediate_of : Composed R (runImmediate x) := by
  refine (composed_invoke_of hf).attempt.bind fun r => ?_
  rcases r with (_ | _ | _) | _
  · exact Composed.note _
  all_goals exact (Composed.settle _).discard

/-- Beyond invoking the switch, an engine at most takes it down. -/
theorem composed_runTransition_of (engine : Engine) {kind : Int32}
    (ha : ∀ d, R d { d with transitions := d.transitions ++ [kind] })
    (hh : ∀ d, R d { d with pending := d.pending ++ [x] }) :
    Composed R (runTransition engine kind x) := by
  have hrun := composed_runImmediate_of (x := x) hf
  cases engine with
  | immediate => exact hrun
  | host =>
    refine (Composed.modifyState ha).bind fun _ => Composed.state.bind fun d => ?_
    cases d.engineMode with
    | immediate => exact hrun
    | deferred => exact Composed.modifyState hh
    | drop => exact Composed.pure ()
    | panic => exact Composed.panic

end Engines

/-! Presentation. -/

/-- What can come of a presentation. -/
def Event.Presents : Event → Prop
  | .requested _ | .attached _ | .filled _ => True
  | .resized _ | .opened | .closed => False

variable [Strolling R]

theorem composed_post (category : Option Int32) (record : Record) :
    Composed R (post category record) := by
  refine .step (.bind .state fun d => ?_) (Keeps.state_bind fun s => ?_)
  · cases d.outbox with
    | none => exact .note _
    | some posted => exact .modifyState _
  · cases ho : s.state.outbox with
    | none => exact spans_refl s.state
    | some posted => exact Strolling.hushed (.post ho ⟨category, record⟩) (.of_eq rfl rfl rfl) (.of_eq rfl)

theorem composed_invoke {x : Switch} (h : ∀ g, Admits R (.filled g)) : Composed R (invoke x) :=
  composed_invoke_of fun g => composed_setPageContent (h g)

theorem composed_nextGeneration {p : Ref .presenter} (h : Admits R (.requested p)) :
    Composed R (nextGeneration p) :=
  (Composed.modifyState fun _ => h (.request p)).bind fun _ => Composed.state.bind fun _ =>
    Composed.pure _

section Presentation

variable (h : ∀ v : Event, v.Presents → Admits R v)
include h

theorem composed_showBar (bar : Option (Ref .bar)) : Composed R (showBar bar) := by
  cases bar with
  | none => exact Composed.pure ()
  | some b => exact composed_setPageBar (h (.attached b) trivial)

theorem composed_present (p : Ref .presenter) (bar : Option (Ref .bar)) :
    Composed R (present p bar) := by
  refine (composed_nextGeneration (h (.requested p) trivial)).discard.bind fun _ => Composed.bind (Composed.runSync ?_)
    fun _ => Composed.note _
  exact (composed_showBar h bar).bind fun _ => Composed.state.bind fun _ =>
    composed_setPageContent (h (.filled _) trivial)

theorem composed_runTransition (engine : Engine) (kind : Int32) (x : Switch) :
    Composed R (runTransition engine kind x) :=
  composed_runTransition_of (fun g => composed_setPageContent (h (.filled g) trivial)) engine
    (fun _ => Strolling.hushed (.animate kind) (.of_eq rfl rfl rfl) (.of_eq rfl))
    fun _ => Strolling.hushed (.hold x) (.of_eq rfl rfl rfl) (.of_eq rfl)

theorem composed_presentWithTransition (p : Ref .presenter) (bar : Option (Ref .bar))
    (kind : Int32) : Composed R (presentWithTransition p bar kind) := by
  refine (composed_nextGeneration (h (.requested p) trivial)).bind fun _ => Composed.state.bind fun _ =>
    Composed.bind (Composed.runSync ?_) fun _ => Composed.note _
  exact (composed_showBar h bar).bind fun _ => composed_runTransition h _ kind _

theorem composed_showScreen (s : Ref .screen) : Composed R (showScreen s) :=
  Composed.state.bind fun _ => (composed_present h _ _).bind fun _ => Composed.note _

theorem composed_showWithTransition (s : Ref .screen) (kind : Int32) :
    Composed R (showWithTransition s kind) :=
  Composed.state.bind fun _ => (composed_presentWithTransition h _ _ kind).bind fun _ =>
    Composed.note _

end Presentation

/-! Names, and what they hold. -/

section Names

omit [Strolling R]
variable [Walking R]

theorem spans_nameContainer (name : String) (p : Ref .container) (d : Deck) :
    R d (d.nameContainer name p) := by
  have hn : R d { d with names.containers := Names.bind d.names.containers name p } :=
    Walking.still (.names _) (.of_eq rfl rfl rfl)
  unfold nameContainer
  cases d.names.containers.lookup name with
  | none => exact hn
  | some o => exact spans_trans hn (Walking.still (.endContainer o) (.of_eq rfl rfl rfl))

theorem spans_namePanel (name : String) (p : Ref .panel) (d : Deck) : R d (d.namePanel name p) := by
  have hn : R d { d with names.panels := Names.bind d.names.panels name p } :=
    Walking.still (.names _) (.of_eq rfl rfl rfl)
  unfold namePanel
  cases d.names.panels.lookup name with
  | none => exact hn
  | some o => exact spans_trans hn (Walking.still (.endPanel o) (.of_eq rfl rfl rfl))

theorem spans_dropParent (name : String) (d : Deck) : R d (d.dropParent name).2 := by
  have hnames (e : Deck) (names : Names)
      (hh : (names.subscriptions, names.trackers) = (e.names.subscriptions, e.names.trackers))
      (hf : (names.screens, names.trees, names.managers) =
        (e.names.screens, e.names.trees, e.names.managers)) :
      R e { e with names } := by
    simp only [Prod.mk.injEq] at hh hf
    exact Walking.still (.names names)
      (.of_eq (by simp [hearing, hh]) (by simp [furniture, hf]) rfl)
  have hpanel (e : Deck) (q : Ref .panel) :
      R e { e with panels := e.panels.modify q fun x => { x with alive := false } } :=
    Walking.still (.endPanel q) (.of_eq rfl rfl rfl)
  unfold dropParent
  cases d.names.containers.lookup name with
  | none =>
    cases d.names.panels.lookup name with
    | none => exact hnames d _ rfl rfl
    | some q => exact spans_trans (hpanel d q) (hnames _ _ rfl rfl)
  | some p =>
    have hc : R d { d with
      containers := d.containers.modify p fun x => { x with alive := false } } :=
      Walking.still (.endContainer p) (.of_eq rfl rfl rfl)
    cases d.names.panels.lookup name with
    | none => exact spans_trans hc (hnames _ _ rfl rfl)
    | some q => exact spans_trans hc (spans_trans (hpanel _ q) (hnames _ _ rfl rfl))

end Names

/-! Children. -/

section Children

variable [Reshaping R]

theorem composed_addChild (t : Ref .tree) (c : Child) : Composed R (addChild t c) := by
  refine Composed.state.bind fun d => Composed.bind (Composed.runSync ?_) fun _ => Composed.bind ?_ fun _ =>
    Composed.state.bind fun _ => Composed.ite (Composed.note _) (Composed.pure ())
  · exact .modifyState (Reshaping.grid (.add _) _)
  · exact .modifyState (Reshaping.tree (.append c) t)

theorem composed_dropChild (t : Ref .tree) (c : Child) : Composed R (dropChild t c) := by
  refine Composed.state.bind fun d => Composed.bind (Composed.runSync ?_) fun _ => ?_
  · exact .modifyState (Reshaping.grid (.detach _) _)
  · refine .modifyState fun d => spans_trans ?_ (Strolling.letGo _ _)
    exact Reshaping.tree (.erase c) t d

theorem composed_removeChild (t : Ref .tree) (h : Handle) : Composed R (removeChild t h) := by
  refine Composed.state.bind fun d => ?_
  split
  · exact Composed.pure none
  · exact (composed_dropChild t _).bind fun _ => Composed.pure _

theorem composed_removeChildAt (t : Ref .tree) (i : Int32) : Composed R (removeChildAt t i) := by
  refine Composed.state.bind fun d => ?_
  dsimp only
  generalize (if i < 0 then none else (d.trees.get t).children[i.toInt.toNat]?) = found
  cases found with
  | none => exact Composed.pure none
  | some c => exact (composed_dropChild t c).bind fun _ => Composed.pure _

omit [Strolling R] in
theorem spans_putGrid (g : Ref .grid) {f : Grid → Grid} (hf : GridMove f) (d : Deck) :
    R d (d.modifyGrid g fun _ => f (d.grids.get g)) := by
  have h : d.grids.modify g (fun _ => f (d.grids.get g)) = d.grids.modify g f :=
    Store.modify_congr fun x hx => by rw [Store.get_of_get? hx]
  rw [modifyGrid, h]
  exact Reshaping.grid hf g d

end Children

/-! Command bars. -/

omit [Strolling R] in
theorem spans_putRegistry (m : Ref .manager) [Itemizing R m] (item : Handle) (times : Nat) (d : Deck) :
    R d (d.modifyManager m fun x => { x with
      registry := ((d.managers.get m).registry.registerTimes item times).2 }) := by
  have h : d.managers.modify m (fun x => { x with
      registry := ((d.managers.get m).registry.registerTimes item times).2 }) =
      d.managers.modify m fun x => { x with registry := (x.registry.registerTimes item times).2 } :=
    Store.modify_congr fun x hx => by rw [Store.get_of_get? hx]
  rw [modifyManager, h]
  exact Itemizing.register item times d

omit [Strolling R] in
theorem composed_setManagerVisible [Act.Steady (Act.OnState R)] [Turning R] (m : Ref .manager)
    (value : Bool) : Composed R (setManagerVisible m value) := by
  refine .step (.bind .state fun d => ?_) (Keeps.state_bind fun s => ?_)
  · dsimp only
    split
    · exact .pure _
    · exact .bind (.modifyState _) fun _ => .bind (.note _) fun _ => .pure _
  · by_cases hv : (s.state.managers.get m).visible = value
    · rw [if_pos hv]
      exact spans_refl s.state
    · rw [if_neg hv]
      exact Turning.turn m value s.state

omit [Strolling R] in
theorem composed_registerItem (m : Ref .manager) [Itemizing R m] (item : Handle) :
    Composed R (registerItem m item) := by
  refine .step (.bind .state fun d => ?_) (Keeps.state_bind fun s => ?_)
  · rcases (d.managers.get m).registry.register item with ⟨_ | _, registry⟩
    · exact .bind (.modifyState _) fun _ => .throw _
    · exact .bind (.modifyState _) fun _ => .pure _
  · have hm := spans_putRegistry (R := R) m item 1 s.state
    rw [Registry.registerTimes] at hm
    rcases hr : (s.state.managers.get m).registry.register item with ⟨r, registry⟩
    rw [hr] at hm
    cases r with
    | ok index => exact hm
    | error f => exact hm

theorem resetManager_apply (m : Ref .manager) (s : Scene Deck) :
    resetManager m s = (.ok s.state.makeBar.1, { s with
      state := s.state.makeBar.2.modifyManager m fun _ => { bar := s.state.makeBar.1 }
      notices := s.notices ++ [.barReset] }) := rfl

omit [Strolling R] in
theorem composed_resetManager (m : Ref .manager) [Itemizing R m] : Composed R (resetManager m) := by
  refine .step (fun _ _ => rfl) fun s => ?_
  rw [resetManager_apply]
  exact Itemizing.reset s.state

theorem managerOf_apply (r : Ref .screen) (s : Scene Deck) :
    managerOf r s = (.ok (s.state.screens.get r).manager, s) := rfl

theorem composed_managerOf (s : Ref .screen) : Composed R (managerOf s) :=
  Composed.state.bind fun _ => Composed.pure _

theorem composed_parent (s : Ref .screen) : Composed R (parent s) := by
  refine Composed.state.bind fun d => ?_
  dsimp only
  cases (d.screens.get s).parent with
  | none => exact Composed.pure none
  | some p => exact Composed.ite (Composed.pure _) (Composed.fail _)

theorem composed_removeOptionsMenu [Reshaping R] [∀ m, Itemizing R m] (s : Ref .screen)
    (h : ∀ b, Admits R (.attached b)) :
    Composed R (removeOptionsMenu s) := by
  refine (composed_managerOf s).bind fun m => (composed_resetManager m).bind fun bar =>
    Composed.state.bind fun d => Composed.bind (Composed.runSync ?_) fun _ => Composed.note _
  exact (Composed.modifyState (Reshaping.grid .release _)).bind fun _ => composed_setPageBar (h bar)

section Containers

omit [Strolling R]
variable [Walking R] [Reshaping R] [∀ m, Itemizing R m] (h : ∀ v : Event, v.Presents → Admits R v)
include h

/-- A container that is told may show the screen or take its bar away. -/
theorem composed_notifyContainer {setVisible : Bool → Do Unit}
    (hs : ∀ value, Composed R (setVisible value)) (p : Ref .container) (s : Ref .screen) :
    Composed R (notifyContainer setVisible p s) := by
  refine Composed.state.bind fun d => Composed.bind ?_ fun _ => ?_
  · exact composed_still (fun _ => .toggle _) fun _ => .of_eq rfl rfl rfl
  cases (d.containers.get p).mode with
  | plain => exact Composed.pure ()
  | refuse => exact Composed.fail _
  | setsVisible value => exact hs value
  | shows => exact composed_showScreen h s
  | resets => exact composed_removeOptionsMenu s fun b => h (.attached b) trivial

variable [Turning R]

/-- By induction on how deep containers call back. -/
theorem composed_setBarVisibleWithin (depth : Nat) (s : Ref .screen) (value : Bool) :
    Composed R (setBarVisibleWithin depth s value) := by
  -- A container that is told may call back, one level further in.
  induction depth generalizing s value with
  | zero => exact Composed.hang
  | succ depth ih =>
    refine (composed_parent s).bind fun p => (composed_managerOf s).bind fun m =>
      (composed_setManagerVisible m value).bind fun changed => Composed.ite ?_ (Composed.pure ())
    cases p with
    | none => exact Composed.pure ()
    | some p =>
      cases p with
      | container k => exact composed_notifyContainer h (ih s) k s
      | panel k => exact Composed.pure ()
      | screen k => exact Composed.pure ()

theorem composed_setBarVisible (s : Ref .screen) (value : Bool) :
    Composed R (setBarVisible s value) := composed_setBarVisibleWithin h 3 s value

theorem composed_enableBar (s : Ref .screen) : Composed R (enableBar s) := by
  refine (composed_parent s).discard.bind fun _ => Composed.state.bind fun d =>
    Composed.bind (Composed.runSync ?_) fun reserved => ?_
  · exact composed_change fun d => spans_putGrid _ (.reserve d.settings.barExtent) d
  · cases reserved with
    | false => exact composed_setBarVisible h s true
    | true => exact (Composed.note _).bind fun _ => composed_setBarVisible h s true

end Containers

/-! Orientation. -/

section Orientation

variable {device : DeviceOrientation} (h : device.group.isSome → ∀ size, Admits R (.resized size))
include h

theorem composed_handleOrientation (handle : Handle) :
    Composed R (handleOrientation handle device) := by
  have hrest (o : ScreenOrientation) : Composed R (do
      Act.note .orientationChanged
      postBroadcast o
      postAddressed handle o
      return o) :=
    (Composed.note _).bind fun _ => (composed_post _ _).bind fun _ => (composed_post _ _).bind fun _ =>
      Composed.pure o
  refine composed_pageSize.discard.bind fun _ => ?_
  dsimp only
  cases hg : device.group with
  | none => exact (Composed.note _).bind fun _ => hrest _
  | some group =>
    have hsize := h (by rw [hg]; rfl)
    exact Composed.state.bind fun _ => (Composed.runSync (composed_resizePage (hsize _))).bind fun _ =>
      hrest _

theorem composed_trackerHandle (t : Ref .tracker) : Composed R (trackerHandle t device) :=
  Composed.state.bind fun _ => composed_handleOrientation h _

theorem composed_rotate (s : Ref .screen) : Composed R (rotate s device) :=
  Composed.state.bind fun _ => composed_trackerHandle h _

omit h in
theorem composed_dispose (s : Ref .screen) : Composed R (dispose s) := by
  refine .step (.bind .state fun d => ?_) (Keeps.state_bind fun t => ?_)
  · dsimp only
    cases (d.screens.get s).disposed with
    | true => exact .pure _
    | false => exact fun _ _ => rfl
  · dsimp only
    cases hd : (t.state.screens.get s).disposed with
    | true => exact spans_refl t.state
    | false => exact Strolling.retire hd

theorem composed_receive (l : Listener) : Composed R (receive device l) := by
  cases l with
  | disposer s => exact composed_dispose s
  | tracker t =>
    refine Composed.state.bind fun d => Composed.ite ?_ (Composed.pure ())
    refine (composed_trackerHandle h t).attempt.bind fun r => ?_
    rcases r with (_ | _ | _) | _
    · exact Composed.note _
    all_goals exact (Composed.settle _).discard

theorem composed_notifyOrientation : Composed R (notifyOrientation device) :=
  Composed.state.bind fun _ => Composed.forM (composed_receive h) _

end Orientation

/-! Screens. -/

omit [Strolling R] in
theorem composed_openScreen [Walking R] (name : String) (handle : Handle) : Composed R (openScreen name handle) :=
  .step (fun _ _ => rfl) fun s => Walking.takeScreen name handle s.state

theorem composed_isShown (s : Ref .screen) : Composed R (isShown s) := by
  refine (composed_parent s).bind fun p => Composed.state.bind fun d => ?_
  cases p with
  | none => exact composed_isCurrentContent _
  | some p =>
    cases p with
    | container k =>
      dsimp only
      split
      · exact (Composed.fail _).bind fun _ => Composed.pure _
      · exact Composed.pure _
    | panel k => exact Composed.pure false
    | screen k => exact Composed.pure false

theorem composed_setTitle (s : Ref .screen) (title : String) : Composed R (setTitle s title) :=
  .modifyState fun d => Strolling.hushed (.title s title)
    (still_modifyScreen d s (fun _ => rfl) fun _ => rfl) (.modifyScreen d s fun _ => rfl)

omit [Strolling R] in
theorem composed_setParent [Walking R] (s : Ref .screen) (p : Option Parent) : Composed R (setParent s p) :=
  composed_still (fun _ => .parent s p) fun d => still_modifyScreen d s (fun _ => rfl) fun _ => rfl

theorem composed_setProperty [Reshaping R] [∀ m, Itemizing R m] (s : Ref .screen)
    (name value : String) (h : ∀ b, Admits R (.attached b)) :
    Composed R (setProperty s name value) := by
  unfold setProperty
  split
  · exact Composed.fail _
  · exact composed_setTitle s value
  · exact composed_removeOptionsMenu s h
  · split
    · exact Composed.fail _
    · exact Composed.pure ()

theorem composed_getProperty (s : Ref .screen) (name : String) :
    Composed R (getProperty s name) := by
  unfold getProperty
  split
  · exact Composed.fail _
  · exact (composed_isShown s).bind fun _ => Composed.pure _
  · split
    · exact Composed.fail _
    · exact Composed.pure ""

end ScreenDeck.Deck
