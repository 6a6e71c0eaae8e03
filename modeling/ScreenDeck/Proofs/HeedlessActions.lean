import ScreenDeck.Proofs.Callbacks
import ScreenDeck.Proofs.Reparenting

/-! Actions that take no heed of the parent of a screen. Only those that ask for it, or set it, do. -/

namespace ScreenDeck.Deck

open Act (Agrees)

/-- Whatever parent the screen has, the action ends alike, and leaves the screen with that parent. -/
abbrev Heedless {α : Type} (r : Ref .screen) (p : Option Parent) (a : Do α) : Prop :=
  Agrees (Reparented r p) (Reparented r p) a

variable {α : Type} {r q : Ref .screen} {p : Option Parent}

theorem heedless_read {f : Deck → Do α} (hf : ∀ d, f (d.reparent r p) = f d)
    (h : ∀ d, Heedless r p (f d)) : Heedless r p (Act.state >>= f) :=
  .state_bind fun {d _} hd => ⟨by rw [hd.eq, hf], h d⟩

theorem heedless_elsewhere {f : Deck → Deck} (hf : ∀ d, f (d.reparent r p) = (f d).reparent r p)
    (hs : ∀ d, (f d).screens = d.screens) : Heedless r p (Act.modifyState f) :=
  .modifyState fun h => h.map hf hs

theorem heedless_change {f : Deck → α × Deck} (hf : ∀ {d e}, Reparented r p d e →
    (f e).1 = (f d).1 ∧ Reparented r p (f d).2 (f e).2) : Heedless r p (change f) :=
  fun _ _ h => ⟨congrArg Except.ok (hf h.state).1, h.context, h.notices, (hf h.state).2⟩

theorem heedless_change_elsewhere {f : Deck → α × Deck}
    (hf : ∀ d, f (d.reparent r p) = ((f d).1, (f d).2.reparent r p))
    (hs : ∀ d, (f d).2.screens = d.screens) : Heedless r p (change f) := by
  refine heedless_change fun {d e} h => ?_
  rw [h.eq, hf]
  exact ⟨rfl, by rw [hs, h.there], rfl⟩

/-! Calls on the host. -/

theorem heedless_consult (call : HostCall) : Heedless r p (consult call) := by
  refine heedless_read (fun _ => rfl) fun d => ?_
  cases d.faults call with
  | pass => exact .pure ()
  | refuse => exact .fail _
  | panic => exact .panic

theorem heedless_activePage : Heedless r p activePage := by
  refine heedless_read (fun _ => rfl) fun d => ?_
  cases d.page with
  | none => exact .fail _
  | some page => exact .pure page

theorem heedless_changePage (f : Page → Page) : Heedless r p (changePage f) :=
  heedless_activePage.bind fun _ => heedless_elsewhere (fun _ => rfl) fun _ => rfl

theorem heedless_pageSize : Heedless r p pageSize :=
  (heedless_consult _).bind fun _ => heedless_activePage.bind fun _ => .pure _

theorem heedless_resizePage (size : Size) : Heedless r p (resizePage size) :=
  (heedless_consult _).bind fun _ => heedless_changePage _

theorem heedless_setPageBar (b : Ref .bar) : Heedless r p (setPageBar b) :=
  (heedless_consult _).bind fun _ => heedless_changePage _

theorem heedless_pageBar : Heedless r p pageBar := heedless_activePage.bind fun _ => .pure _

theorem heedless_setPageContent (g : Ref .grid) : Heedless r p (setPageContent g) :=
  (heedless_consult _).bind fun _ => heedless_changePage _

theorem heedless_pageContent : Heedless r p pageContent :=
  (heedless_consult _).bind fun _ => heedless_activePage.bind fun _ => .pure _

theorem heedless_post (category : Option Int32) (record : Record) : Heedless r p (post category record) := by
  refine heedless_read (fun _ => rfl) fun d => ?_
  cases d.outbox with
  | none => exact .note _
  | some posted => exact heedless_elsewhere (fun _ => rfl) fun _ => rfl

/-! Presentation. -/

theorem heedless_nextGeneration (x : Ref .presenter) : Heedless r p (nextGeneration x) :=
  Agrees.bind (heedless_elsewhere (fun _ => rfl) fun _ => rfl) fun _ =>
    heedless_read (fun _ => rfl) fun _ => .pure _

theorem heedless_showBar (bar : Option (Ref .bar)) : Heedless r p (showBar bar) := by
  cases bar with
  | none => exact .pure ()
  | some b => exact heedless_setPageBar b

theorem heedless_present (x : Ref .presenter) (bar : Option (Ref .bar)) : Heedless r p (present x bar) := by
  refine (heedless_nextGeneration x).discard.bind fun _ => (Agrees.runSync ?_ id).bind fun _ => .note _
  exact (heedless_showBar bar).bind fun _ => heedless_read (fun _ => rfl) fun _ => heedless_setPageContent _

theorem heedless_invoke (x : Switch) : Heedless r p (invoke x) := by
  refine (Agrees.runSync ?_ id).bind fun switched => ?_
  · refine heedless_read (fun _ => rfl) fun d => ?_
    exact .ite ((heedless_setPageContent _).bind fun _ => .pure _) (.pure _)
  · cases switched with
    | false => exact (Agrees.note _).bind fun _ => .pure _
    | true => exact .pure _

theorem heedless_runImmediate (x : Switch) : Heedless r p (runImmediate x) := by
  refine (heedless_invoke x).attempt.bind fun result => ?_
  rcases result with (_ | _ | _) | _
  · exact .note _
  all_goals exact (Agrees.settle _).discard

theorem heedless_runTransition (engine : Engine) (kind : Int32) (x : Switch) :
    Heedless r p (runTransition engine kind x) := by
  cases engine with
  | immediate => exact heedless_runImmediate x
  | host =>
    refine Agrees.bind (heedless_elsewhere (fun _ => rfl) fun _ => rfl) fun _ =>
      heedless_read (fun _ => rfl) fun d => ?_
    cases d.engineMode with
    | immediate => exact heedless_runImmediate x
    | deferred => exact heedless_elsewhere (fun _ => rfl) fun _ => rfl
    | drop => exact .pure ()
    | panic => exact .panic

theorem heedless_presentWithTransition (x : Ref .presenter) (bar : Option (Ref .bar)) (kind : Int32) :
    Heedless r p (presentWithTransition x bar kind) := by
  refine (heedless_nextGeneration x).bind fun _ => heedless_read (fun _ => rfl) fun _ =>
    (Agrees.runSync ?_ id).bind fun _ => .note _
  exact (heedless_showBar bar).bind fun _ => heedless_runTransition _ kind _

theorem heedless_isCurrentContent (x : Ref .presenter) : Heedless r p (isCurrentContent x) :=
  heedless_pageContent.bind fun _ => heedless_read (fun _ => rfl) fun _ => .pure _

theorem heedless_showScreen (q : Ref .screen) : Heedless r p (showScreen q) := by
  refine .state_bind fun h => ⟨?_, (heedless_present _ _).bind fun _ => .note _⟩
  obtain ⟨_, hq⟩ := h.get q
  simp only [hq, h.visibleBar]

theorem heedless_showWithTransition (q : Ref .screen) (kind : Int32) :
    Heedless r p (showWithTransition q kind) := by
  refine .state_bind fun h => ⟨?_, (heedless_presentWithTransition _ _ kind).bind fun _ => .note _⟩
  obtain ⟨_, hq⟩ := h.get q
  simp only [hq, h.visibleBar]

/-! Children. -/

theorem heedless_addChild (t : Ref .tree) (c : Child) : Heedless r p (addChild t c) := by
  have hchild (view : ViewId) (g : Ref .grid) : Heedless r p (do
      Act.runSync (Act.modifyState fun d => d.modifyGrid g (·.addView view))
      Act.modifyState fun d : Deck =>
        d.modifyTree t fun tree => { tree with children := tree.children ++ [c] }
      let d ← Act.state
      if 1 < (d.trees.get t).children.length then Act.note .manyChildren) :=
    Agrees.bind (.runSync (heedless_elsewhere (fun _ => rfl) fun _ => rfl) id) fun _ =>
      Agrees.bind (heedless_elsewhere (fun _ => rfl) fun _ => rfl) fun _ =>
        heedless_read (fun _ => rfl) fun _ => .ite (.note _) (.pure _)
  refine .state_bind fun h => ⟨?_, hchild _ _⟩
  rw [h.viewOf, h.eq]
  rfl

theorem heedless_dropChild (t : Ref .tree) (c : Child) : Heedless r p (dropChild t c) := by
  refine .state_bind fun h => ⟨?_, ?_⟩
  · rw [h.viewOf, h.eq]
    rfl
  · refine Agrees.bind (.runSync (heedless_elsewhere (fun _ => rfl) fun _ => rfl) id) fun _ =>
      .modifyState fun h => ?_
    exact (h.map (f := fun d => d.modifyTree t _) (fun _ => rfl) fun _ => rfl).letGo [c]

theorem heedless_removeChild (t : Ref .tree) (handle : Handle) : Heedless r p (removeChild t handle) := by
  refine .state_bind fun {d e} h => ⟨?_, ?_⟩
  · simp only [h.handleOf]
    rw [h.eq]
    rfl
  · split
    · exact .pure _
    · exact (heedless_dropChild t _).bind fun _ => .pure _

theorem heedless_removeChildAt (t : Ref .tree) (i : Int32) : Heedless r p (removeChildAt t i) := by
  refine heedless_read (fun _ => rfl) fun d => ?_
  dsimp only
  generalize (if i < 0 then none else (d.trees.get t).children[i.toInt.toNat]?) = found
  cases found with
  | none => exact .pure _
  | some c => exact (heedless_dropChild t c).bind fun _ => .pure _

/-! Command bars. -/

theorem heedless_setManagerVisible (m : Ref .manager) (value : Bool) :
    Heedless r p (setManagerVisible m value) := by
  refine heedless_read (fun _ => rfl) fun d => .ite (.pure _) ?_
  exact Agrees.bind (heedless_elsewhere (fun _ => rfl) fun _ => rfl) fun _ =>
    (Agrees.note _).bind fun _ => .pure _

theorem heedless_registerItem (m : Ref .manager) (item : Handle) : Heedless r p (registerItem m item) := by
  refine heedless_read (fun _ => rfl) fun d => ?_
  rcases (d.managers.get m).registry.register item with ⟨_ | _, registry⟩
  · exact Agrees.bind (heedless_elsewhere (fun _ => rfl) fun _ => rfl) fun _ => .fail _
  · exact Agrees.bind (heedless_elsewhere (fun _ => rfl) fun _ => rfl) fun _ => .pure _

theorem heedless_resetManager (m : Ref .manager) : Heedless r p (resetManager m) :=
  Agrees.bind (heedless_change_elsewhere (fun _ => rfl) fun _ => rfl) fun _ =>
    Agrees.bind (heedless_elsewhere (fun _ => rfl) fun _ => rfl) fun _ =>
      (Agrees.note _).bind fun _ => .pure _

theorem heedless_managerOf (q : Ref .screen) : Heedless r p (managerOf q) := by
  refine .state_bind fun h => ⟨?_, .pure _⟩
  obtain ⟨_, hq⟩ := h.get q
  simp only [hq]

theorem heedless_removeOptionsMenu (q : Ref .screen) : Heedless r p (removeOptionsMenu q) := by
  refine (heedless_managerOf q).bind fun m => (heedless_resetManager m).bind fun b =>
    .state_bind fun h => ⟨?_, ?_⟩
  · obtain ⟨_, hq⟩ := h.get q
    simp only [hq]
  · refine (Agrees.runSync ?_ id).bind fun _ => .note _
    exact Agrees.bind (heedless_elsewhere (fun _ => rfl) fun _ => rfl) fun _ => heedless_setPageBar b

/-- A container that is told of one screen looks at the parent of another one only in its calls. -/
theorem heedless_notifyContainer {setVisible : Bool → Do Unit}
    (hs : ∀ value, Heedless r p (setVisible value)) (k : Ref .container) (q : Ref .screen) :
    Heedless r p (notifyContainer setVisible k q) := by
  refine .state_bind fun {d e} h => ⟨?_, ?_⟩
  · obtain ⟨_, hq⟩ := h.get q
    simp only [hq, h.barVisible]
    rw [h.eq]
    rfl
  · refine Agrees.bind (heedless_elsewhere (fun _ => rfl) fun _ => rfl) fun _ => ?_
    cases (d.containers.get k).mode with
    | plain => exact .pure ()
    | refuse => exact .fail _
    | setsVisible value => exact hs value
    | shows => exact heedless_showScreen q
    | resets => exact heedless_removeOptionsMenu q

theorem heedless_reserve (g : Ref .grid) : Heedless r p (reserve g) :=
  heedless_change_elsewhere (fun _ => rfl) fun _ => rfl

section Others

variable (hq : q ≠ r)
include hq

/-- The parent of another screen. That screens are nested in the screen changes nothing. -/
theorem heedless_parent : Heedless r p (parent q) := by
  refine .state_bind fun {d e} h => ⟨?_, ?_⟩
  · rw [h.get_ne hq]
    rcases (d.screens.get q).parent with _ | k | k | x
    · rfl
    · rw [h.eq]
      rfl
    · rw [h.eq]
      rfl
    · obtain ⟨_, hx⟩ := h.get x
      simp only [hx]
  · rcases (d.screens.get q).parent with _ | x
    · exact .pure none
    · exact .ite (.pure _) (.fail _)

theorem heedless_setBarVisibleWithin (depth : Nat) (value : Bool) :
    Heedless r p (setBarVisibleWithin depth q value) := by
  induction depth generalizing value with
  | zero => exact .hang
  | succ depth ih =>
    refine (heedless_parent hq).bind fun x => (heedless_managerOf q).bind fun m =>
      (heedless_setManagerVisible m value).bind fun turned => .ite ?_ (.pure ())
    split
    · exact heedless_notifyContainer ih _ q
    · exact .pure ()

theorem heedless_setBarVisible (value : Bool) : Heedless r p (setBarVisible q value) :=
  heedless_setBarVisibleWithin hq 3 value

theorem heedless_enableBar : Heedless r p (enableBar q) := by
  refine (heedless_parent hq).discard.bind fun _ => .state_bind fun h => ⟨?_, ?_⟩
  · obtain ⟨_, hscreen⟩ := h.get q
    simp only [hscreen]
  · refine (Agrees.runSync (heedless_reserve _) id).bind fun reserved => ?_
    have hshow : Heedless r p (setBarVisible q true) := heedless_setBarVisible hq true
    exact Agrees.ite ((Agrees.note _).bind fun _ => hshow) hshow

theorem heedless_isShown : Heedless r p (isShown q) := by
  refine (heedless_parent hq).bind fun x => .state_bind fun {d e} h => ⟨?_, ?_⟩
  · rw [h.get_ne hq, h.eq]
    rfl
  · rcases x with _ | k | k | y
    · exact heedless_isCurrentContent _
    · have hshown : Heedless r p (pure ((d.containers.get k).shown = some (d.screens.get q).handle : Bool)) :=
        .pure _
      exact Agrees.ite ((Agrees.fail _).bind fun _ => hshown) hshown
    · exact .pure _
    · exact .pure _

theorem heedless_setParent (x : Option Parent) : Heedless r p (setParent q x) :=
  .modifyState fun h => h.modifyScreen q fun hr => absurd hr.symm hq

end Others

/-! Orientation, and what listens to it. -/

theorem heedless_handleOrientation (handle : Handle) (device : DeviceOrientation) :
    Heedless r p (handleOrientation handle device) := by
  have hrest (o : ScreenOrientation) : Heedless r p (do
      Act.note .orientationChanged
      postBroadcast o
      postAddressed handle o
      return o) :=
    (Agrees.note _).bind fun _ => (heedless_post _ _).bind fun _ => (heedless_post _ _).bind fun _ => .pure o
  refine heedless_pageSize.discard.bind fun _ => ?_
  cases device.group with
  | none => exact (Agrees.note _).bind fun _ => hrest _
  | some group =>
    exact heedless_read (fun _ => rfl) fun _ => .bind (.runSync (heedless_resizePage _) id) fun _ => hrest _

theorem heedless_trackerHandle (t : Ref .tracker) (device : DeviceOrientation) :
    Heedless r p (trackerHandle t device) :=
  heedless_read (fun _ => rfl) fun _ => heedless_handleOrientation _ device

theorem heedless_rotate (q : Ref .screen) (device : DeviceOrientation) : Heedless r p (rotate q device) := by
  refine .state_bind fun h => ⟨?_, heedless_trackerHandle _ device⟩
  obtain ⟨_, hq⟩ := h.get q
  simp only [hq]

theorem heedless_dispose (q : Ref .screen) : Heedless r p (dispose q) := by
  refine .state_bind fun {d e} h => ⟨?_, ?_⟩
  · obtain ⟨_, hq⟩ := h.get q
    simp only [hq]
  · dsimp only
    cases (d.screens.get q).disposed with
    | true => exact .pure _
    | false =>
      refine .bind (heedless_change fun h => h.release _).discard fun _ => .bind ?_ fun _ => .note _
      exact .modifyState fun h => h.modifyScreen q fun _ _ => rfl

theorem heedless_receive (device : DeviceOrientation) (l : Listener) : Heedless r p (receive device l) := by
  cases l with
  | tracker t =>
    refine heedless_read (fun _ => rfl) fun _ => .ite ?_ (.pure ())
    refine (heedless_trackerHandle t device).attempt.bind fun result => ?_
    rcases result with (_ | _ | _) | _
    · exact .note _
    all_goals exact (Agrees.settle _).discard
  | disposer q => exact heedless_dispose q

theorem heedless_notifyOrientation (device : DeviceOrientation) : Heedless r p (notifyOrientation device) :=
  heedless_read (fun _ => rfl) fun _ => .forM (heedless_receive device) _

/-! Properties. -/

theorem heedless_openScreen (name : String) (handle : Handle) : Heedless r p (openScreen name handle) :=
  .bind (heedless_change fun h => h.makeScreen handle) fun _ => (Agrees.note _).bind fun _ =>
    .modifyState fun h => h.nameScreen name _

theorem heedless_setTitle (q : Ref .screen) (title : String) : Heedless r p (setTitle q title) :=
  .modifyState fun h => h.modifyScreen q fun _ _ => rfl

theorem heedless_setProperty (q : Ref .screen) (name value : String) :
    Heedless r p (setProperty q name value) := by
  unfold setProperty
  split
  · exact .fail _
  · exact heedless_setTitle q value
  · exact heedless_removeOptionsMenu q
  · split
    · exact .fail _
    · exact .pure ()

/-- Only one property depends on the parent. -/
theorem heedless_getProperty {name : String} (h : q = r → Property.ofName name ≠ .ok .isShown) :
    Heedless r p (getProperty q name) := by
  unfold getProperty
  split
  next => exact .fail _
  next hname => exact (heedless_isShown fun hq => h hq hname).bind fun _ => .pure _
  next =>
    split
    · exact .fail _
    · exact .pure _

end ScreenDeck.Deck
