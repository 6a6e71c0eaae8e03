import ScreenDeck.Proofs.Callbacks
import ScreenDeck.Proofs.Furnishings
import ScreenDeck.Proofs.Lines
import ScreenDeck.Proofs.PageBars
import ScreenDeck.Proofs.PageSizes
import ScreenDeck.Proofs.TreeCalls

/-! What is left to do once the context was shut down. Nothing visible changes any more: neither the
page nor a grid nor the children of a living screen, and a call that would have to change one of them
says that the context has stopped. -/

namespace ScreenDeck

namespace Deck

open Act (Composed Keeps OnState)

variable {α β : Type} {d e f : Deck} {s : Scene Deck}

/-- The page, the grids and the children of living screens stay as they are. -/
structure Frozen (d e : Deck) : Prop extends Upholds d e where
  page : e.page = d.page
  grids : ∀ {g x}, d.grids.get? g = some x → e.grids.get? g = some x
  children : d.Furnished → ∀ {r x y}, d.screens.get? r = some x → e.screens.get? r = some y →
    y.alive = true → x.alive = true ∧ e.trees.get? x.tree = d.trees.get? x.tree

namespace Frozen

theorem refl (d : Deck) : Frozen d d where
  toUpholds := .refl d
  page := rfl
  grids := id
  children _ _ _ _ hx hy ha := by
    obtain rfl := Option.some.inj (hx.symm.trans hy)
    exact ⟨ha, rfl⟩

theorem trans (h : Frozen d e) (h' : Frozen e f) : Frozen d f where
  toUpholds := h.toUpholds.trans h'.toUpholds
  page := h'.page.trans h.page
  grids hx := h'.grids (h.grids hx)
  children hd r x z hx hz ha := by
    obtain ⟨y, hy, hyx⟩ := h.parts hx
    obtain ⟨halive, hlater⟩ := h'.children (h.furnished hd) hy hz ha
    obtain ⟨halive, hbefore⟩ := h.children hd hx hy halive
    have htree : y.tree = x.tree := congrArg Prod.fst hyx
    rw [htree] at hlater
    exact ⟨halive, hlater.trans hbefore⟩

theorem of_calm (h : Calm d e)
    (halive : ∀ {r x y}, d.screens.get? r = some x → e.screens.get? r = some y →
      y.alive = true → x.alive = true)
    (htrees : d.Furnished → ∀ {r x y}, d.screens.get? r = some x → e.screens.get? r = some y →
      y.alive = true → e.trees.get? x.tree = d.trees.get? x.tree) : Frozen d e where
  toUpholds := h.upholds
  page := h.page
  grids := h.grids
  children hd _ _ _ hx hy ha := ⟨halive hx hy ha, htrees hd hx hy ha⟩

theorem of_eq (h : e.furniture = d.furniture) : Frozen d e := by
  have hcalm := Calm.of_eq h
  simp only [furniture, Prod.mk.injEq] at h
  obtain ⟨-, -, htrees, -, hscreens, -, -, -⟩ := h
  refine .of_calm hcalm (fun {r x y} hx hy ha => ?_) fun _ _ _ _ _ _ _ => by rw [htrees]
  rw [hscreens] at hy
  obtain rfl := Option.some.inj (hx.symm.trans hy)
  exact ha

theorem still (h : Still d e) : Frozen d e := by
  refine .of_calm h.toCalm (fun {r x y} hx hy ha => ?_) fun hd r x y hx _ _ => ?_
  · have hlife := h.lives r
    rw [hx, hy] at hlife
    exact (congrArg Life.alive (Option.some.inj hlife)).symm.trans ha
  · obtain ⟨tree, htree⟩ := Option.isSome_iff_exists.mp (hd.trees.there hx)
    rw [htree, h.children htree]

/-- A screen that ends has a tree that no other screen has. -/
theorem bury {s : Ref .screen} (hs : (d.screens.get s).alive = true) : Frozen d (d.bury s) := by
  have hget := get?_of_alive hs
  refine .of_calm (calm_bury s d) (fun {r x y} hx hy ha => ?_) fun hd r x y hx hy ha => ?_
  · obtain ⟨z, hz, rfl | rfl⟩ := Store.get?_modify_eq_some hy
    · obtain rfl := Option.some.inj (hx.symm.trans hz)
      exact ha
    · cases ha
  · by_cases hr : s = r
    · subst hr
      have hself : (d.bury s).screens.get? s = some { d.screens.get s with alive := false } := by
        exact (Store.get?_modify_self d.screens s _).trans (by rw [hget]; rfl)
      obtain rfl := Option.some.inj (hself.symm.trans hy)
      cases ha
    · have hne : (d.screens.get s).tree ≠ x.tree := fun he => hr (hd.trees.apart hget hx he)
      exact Store.get?_modify_ne d.trees _ hne

theorem letGo (cs : List Child) (d : Deck) : Frozen d (d.letGo cs) := by
  have : Act.Steady (OnState Frozen) := Act.steady_onState refl trans
  exact spans_letGo bury (fun x d => .of_eq (furniture_release x d)) cs d

/-- A screen that is disposed of keeps its children, and the page what it shows. -/
theorem retire (s : Ref .screen) (d : Deck) : Frozen d (d.retire s) := by
  have hrelease : Frozen d (d.release (d.screens.get s).subscription).2 :=
    .of_eq (furniture_release _ d)
  refine hrelease.trans ?_
  refine .of_calm (.modifyScreen _ s fun _ => rfl) (fun {r x y} hx hy ha => ?_) fun _ _ _ _ _ _ _ => rfl
  obtain ⟨z, hz, rfl | rfl⟩ := Store.get?_modify_eq_some hy
  · obtain rfl := Option.some.inj (hx.symm.trans hz)
    exact ha
  · obtain rfl := Option.some.inj (hx.symm.trans hz)
    exact ha

theorem of_upholds (h : Upholds d e)
    (he : (e.page, e.grids, e.trees, e.screens) = (d.page, d.grids, d.trees, d.screens)) :
    Frozen d e := by
  simp only [Prod.mk.injEq] at he
  obtain ⟨hpage, hgrids, htrees, hscreens⟩ := he
  refine ⟨h, hpage, fun hx => hgrids ▸ hx, fun _ {r x y} hx hy ha => ?_⟩
  rw [hscreens] at hy
  obtain rfl := Option.some.inj (hx.symm.trans hy)
  exact ⟨ha, by rw [htrees]⟩

/-- The new screen takes nothing from the others, since its tree and its grid are made with it. -/
theorem nameNewScreen (name : String) (handle : Handle) (d : Deck) :
    Frozen d (d.nameNewScreen name handle) where
  toUpholds := upholds_nameNewScreen name handle d
  page := rfl
  grids hx := Store.get?_add_of_get? hx _
  children hd r x y hx hy ha := by
    obtain ⟨z, -, hs⟩ := screens_makeScreen_parts handle d
    have hkept : (d.makeScreen handle).2.screens.get? r = some x := by
      rw [hs]
      exact Store.get?_add_of_get? hx z
    obtain rfl := Option.some.inj (hkept.symm.trans hy)
    obtain ⟨tree, htree⟩ := Option.isSome_iff_exists.mp (hd.trees.there hx)
    refine ⟨ha, ?_⟩
    rw [htree]
    exact Store.get?_add_of_get? htree _

theorem takeScreen (name : String) (handle : Handle) (d : Deck) :
    Frozen d (d.takeScreen name handle) := by
  have hnew := nameNewScreen name handle d
  rw [takeScreen_eq]
  cases d.names.screens.lookup name with
  | none => exact hnew
  | some o => exact hnew.trans (letGo _ _)

theorem dropScreen (name : String) (d : Deck) : Frozen d (d.dropScreen name).2 := by
  unfold Deck.dropScreen
  cases d.names.screens.lookup name with
  | none => exact refl d
  | some o => exact (of_upholds (upholds_unnameScreen name d) rfl).trans (letGo [.screen o] _)

theorem takeManager (name : String) (d : Deck) : Frozen d (d.takeManager name) :=
  .of_upholds (upholds_takeManager name d) rfl

/-- What had the name before loses its children, and no screen has such a tree. -/
theorem takeTree (name : String) (owner : Handle) (grid : Ref .grid) (d : Deck) :
    Frozen d (d.takeTree name owner grid) := by
  have hkept (hd : d.Furnished) {r : Ref .screen} {x : Screen} (hx : d.screens.get? r = some x) :
      (d.nameNewTree name owner grid).trees.get? x.tree = d.trees.get? x.tree := by
    obtain ⟨tree, htree⟩ := Option.isSome_iff_exists.mp (hd.trees.there hx)
    rw [htree]
    exact Store.get?_add_of_get? htree _
  have hnew := upholds_nameNewTree name owner grid d
  rw [takeTree_eq]
  cases ho : d.names.trees.lookup name with
  | none =>
    refine ⟨hnew, rfl, id, fun hd r x y hx hy ha => ?_⟩
    obtain rfl := Option.some.inj (hx.symm.trans hy)
    exact ⟨ha, hkept hd hx⟩
  | some o =>
    refine trans (e := (d.nameNewTree name owner grid).modifyTree o fun x => { x with children := [] })
      ⟨hnew.trans (Calm.modifyTree _ o _).upholds, rfl, id, fun hd r x y hx hy ha => ?_⟩ (letGo _ _)
    obtain rfl := Option.some.inj (hx.symm.trans hy)
    have hne : o ≠ x.tree := (hd.trees.unnamed (Names.mem_of_lookup ho) hx).symm
    exact ⟨ha, (Store.get?_modify_ne _ _ hne).trans (hkept hd hx)⟩

end Frozen

instance : Act.Steady (OnState Frozen) := Act.steady_onState Frozen.refl Frozen.trans

instance : Walking Frozen where
  still _ := .still
  letGo := Frozen.letGo
  retire _ := .retire _ _
  takeScreen := Frozen.takeScreen
  dropScreen := Frozen.dropScreen
  takeTree := Frozen.takeTree
  takeManager := Frozen.takeManager
  takeTracker name handle d := .of_eq (furniture_takeTracker name handle d)
  dropTracker name d := .of_eq (furniture_dropTracker name d)
  attach _ name := .of_eq (furniture_attach name _ _)
  releaseNamed _ := .of_eq (furniture_releaseNamed _ _ _)
  dropSubscription name d := .of_eq (furniture_dropSubscription name d)

theorem frozen_modifyManager (m : Ref .manager) (f : BarManager → BarManager) (d : Deck) :
    Frozen d (d.modifyManager m f) := .of_upholds (upholds_modifyManager m f d) rfl

instance : Turning Frozen where
  turn m value d := .of_upholds (calm_setVisible m value d).upholds rfl

instance (m : Ref .manager) : Itemizing Frozen m where
  register _ _ d := frozen_modifyManager m _ d
  reset d := by
    have hbar : Frozen d d.makeBar.2 := .of_eq rfl
    exact hbar.trans (frozen_modifyManager m _ _)

theorem admits_frozen_request (p : Ref .presenter) : Admits Frozen (.requested p) := fun hm => by
  cases hm
  exact .of_eq rfl

/-! What a context that was shut down makes of each action. -/

def stoppedError : Abort := .failed (.dispatch .stopped)

def Halted (s t : Scene Deck) : Prop :=
  s.context.running = false → t.context.running = false ∧ Frozen s.state t.state

instance : Act.Steady Halted where
  refl s hs := ⟨hs, .refl s.state⟩
  trans h h' hs := by
    obtain ⟨ht, hst⟩ := h hs
    obtain ⟨hu, htu⟩ := h' ht
    exact ⟨hu, hst.trans htu⟩
  context s c hc hs := by
    refine ⟨?_, .refl s.state⟩
    cases hr : c.running with
    | false => rfl
    | true =>
      rw [hc hr] at hs
      cases hs
  notices s _ hs := ⟨hs, .refl s.state⟩

theorem keeps_of_composed {a : Do α} (h : Composed Frozen a) : Keeps Halted a := fun s hs =>
  ⟨(h.running_eq s).trans hs, h.keeps s⟩

theorem runSync_bind_of_stopped {work : Do α} {k : α → Do β} (hs : s.context.running = false) :
    (Act.runSync work >>= k) s = (.error stoppedError, s) := by
  rw [Act.bind_apply, Act.runSync_apply_of_stopped hs]
  rfl

theorem keeps_runSync (work : Do α) : Keeps Halted (Act.runSync work) := fun s hs => by
  rw [Act.runSync_apply_of_stopped hs]
  exact ⟨hs, .refl s.state⟩

theorem keeps_runSync_bind (work : Do α) (k : α → Do β) : Keeps Halted (Act.runSync work >>= k) :=
  fun s hs => by
    rw [runSync_bind_of_stopped hs]
    exact ⟨hs, .refl s.state⟩

theorem halted_nextGeneration (p : Ref .presenter) : Keeps Halted (nextGeneration p) :=
  keeps_of_composed (composed_nextGeneration (admits_frozen_request p))

-- The generation is counted before anything is handed over. It is no part of what is frozen.
theorem halted_present (p : Ref .presenter) (bar : Option (Ref .bar)) :
    Keeps Halted (present p bar) :=
  ((halted_nextGeneration p).bind fun _ => Keeps.pure _).bind fun _ => keeps_runSync_bind _ _

theorem halted_presentWithTransition (p : Ref .presenter) (bar : Option (Ref .bar)) (kind : Int32) :
    Keeps Halted (presentWithTransition p bar kind) :=
  (halted_nextGeneration p).bind fun _ => Keeps.state.bind fun _ => keeps_runSync_bind _ _

theorem halted_showScreen (r : Ref .screen) : Keeps Halted (showScreen r) :=
  Keeps.state.bind fun _ => (halted_present _ _).bind fun _ => Keeps.note _

theorem halted_showWithTransition (r : Ref .screen) (kind : Int32) :
    Keeps Halted (showWithTransition r kind) :=
  Keeps.state.bind fun _ => (halted_presentWithTransition _ _ kind).bind fun _ => Keeps.note _

theorem halted_invoke (x : Switch) : Keeps Halted (invoke x) := keeps_runSync_bind _ _

theorem halted_addChild (t : Ref .tree) (c : Child) : Keeps Halted (addChild t c) :=
  Keeps.state.bind fun _ => keeps_runSync_bind _ _

theorem halted_dropFound (t : Ref .tree) (found : Option Child) : Keeps Halted (dropFound t found) := by
  cases found with
  | none => exact Keeps.pure none
  | some c =>
    exact Keeps.bind (Keeps.state.bind fun _ => keeps_runSync_bind _ _) fun _ => Keeps.pure _

theorem halted_removeChild (t : Ref .tree) (h : Handle) : Keeps Halted (removeChild t h) := fun s => by
  rw [removeChild_apply]
  exact halted_dropFound t _ s

theorem halted_removeChildAt (t : Ref .tree) (i : Int32) : Keeps Halted (removeChildAt t i) :=
  fun s => by
    rw [removeChildAt_apply]
    exact halted_dropFound t _ s

theorem halted_removeOptionsMenu (r : Ref .screen) : Keeps Halted (removeOptionsMenu r) :=
  (keeps_of_composed (composed_managerOf r)).bind fun m =>
    -- The items and the bar of the manager are new by now, but the page has the bar it had.
    (keeps_of_composed (composed_resetManager m)).bind fun _ => Keeps.state.bind fun _ =>
      keeps_runSync_bind _ _

theorem composed_toggle_frozen (t : Toggle) : Composed Frozen
    (Act.modifyState fun d : Deck => { d with toggles := d.toggles ++ [t] }) :=
  composed_still (fun _ => .toggle t) fun _ => .of_eq rfl rfl rfl

theorem halted_setBarVisible (r : Ref .screen) (value : Bool) : Keeps Halted (setBarVisible r value) :=
  fun _ => keeps_setBarVisibleWithin
    (fun value s => keeps_of_composed (composed_setManagerVisible _ value) s)
    (fun t => keeps_of_composed (composed_toggle_frozen t)) 3 value
    (.always (halted_showScreen r) (halted_removeOptionsMenu r))

theorem halted_enableBar (r : Ref .screen) : Keeps Halted (enableBar r) := fun _ =>
  keeps_enableBar (fun value s => keeps_of_composed (composed_setManagerVisible _ value) s)
    (fun t => keeps_of_composed (composed_toggle_frozen t)) (fun g => keeps_runSync (reserve g))
    (.always (halted_showScreen r) (halted_removeOptionsMenu r))

theorem halted_setProperty (r : Ref .screen) (name value : String) :
    Keeps Halted (setProperty r name value) := by
  unfold setProperty
  split
  · exact Keeps.throw _
  · exact keeps_of_composed (composed_setTitle r value)
  · exact halted_removeOptionsMenu r
  · split
    · exact Keeps.throw _
    · exact Keeps.pure ()

theorem halted_handleOrientation (handle : Handle) (device : DeviceOrientation) :
    Keeps Halted (handleOrientation handle device) := by
  cases hg : device.group with
  | none => exact keeps_of_composed (composed_handleOrientation (by simp [hg]) handle)
  | some group =>
    refine (keeps_of_composed composed_pageSize.discard).bind fun _ => ?_
    simp only [hg]
    exact Keeps.state.bind fun _ => keeps_runSync_bind _ _

theorem halted_trackerHandle (t : Ref .tracker) (device : DeviceOrientation) :
    Keeps Halted (trackerHandle t device) :=
  Keeps.state.bind fun _ => halted_handleOrientation _ device

/-- A tracker that is refused says so in a notice only, and the page stays as it was. -/
theorem halted_receive (device : DeviceOrientation) (l : Listener) :
    Keeps Halted (receive device l) := by
  cases l with
  | disposer r => exact keeps_of_composed (composed_dispose r)
  | tracker t =>
    refine Keeps.state.bind fun d => ?_
    split
    · refine (halted_trackerHandle t device).attempt.bind fun r => ?_
      rcases r with (_ | _ | _) | _
      · exact Keeps.note _
      all_goals exact (Keeps.settle _).bind fun _ => Keeps.pure _
    · exact Keeps.pure ()

theorem halted_notifyOrientation (device : DeviceOrientation) :
    Keeps Halted (notifyOrientation device) := by
  refine Keeps.state.bind fun d => ?_
  generalize d.orientation.audience = ls
  induction ls with
  | nil => exact Keeps.pure ()
  | cons l ls ih => exact (halted_receive device l).bind fun _ => ih

/-! What the caller is told. -/

/-- The call ends with the error of a context that was shut down. -/
def Refused (a : Do α) (s : Scene Deck) : Prop := (a s).1 = .error stoppedError

theorem Refused.bind {a : Do α} (h : Refused a s) (k : α → Do β) : Refused (a >>= k) s := by
  rw [Refused, Act.bind_apply]
  rcases hr : a s with ⟨r, t⟩
  have hstop : r = .error stoppedError := by rw [← h, hr]
  rw [hstop]

theorem refused_runSync_bind {work : Do α} {k : α → Do β} (hs : s.context.running = false) :
    Refused (Act.runSync work >>= k) s := by rw [Refused, runSync_bind_of_stopped hs]

theorem refused_present (p : Ref .presenter) (bar : Option (Ref .bar))
    (hs : s.context.running = false) : Refused (present p bar) s := by
  rw [Refused, present_apply]
  exact refused_runSync_bind (s := { s with state := s.state.request p }) hs

theorem refused_presentWithTransition (p : Ref .presenter) (bar : Option (Ref .bar)) (kind : Int32)
    (hs : s.context.running = false) : Refused (presentWithTransition p bar kind) s := by
  rw [Refused, presentWithTransition_apply]
  exact refused_runSync_bind (s := { s with state := s.state.request p }) hs

theorem refused_treeCall {x : TreeCall} {t : Ref .tree} {c : Child} (hm : x.meant t s.state = some c)
    (hs : s.context.running = false) : Refused (x.perform t) s := by
  have hserves : ¬ s.context.Serves := fun h => by
    rw [h.1] at hs
    cases hs
  have hrefusal : s.context.refusal.1 = stoppedError := by simp [Context.refusal, hs, stoppedError]
  have hseen := x.perform_seen t s
  simp only [hm, if_neg hserves, hrefusal, Prod.mk.injEq] at hseen
  exact hseen.1

theorem refused_enableBar {r : Ref .screen} {p : Option Parent} (hp : (parent r s).1 = .ok p)
    (hs : s.context.running = false) : Refused (enableBar r) s := by
  rw [Refused, enableBar_apply, hp]
  exact refused_runSync_bind hs

theorem refused_removeOptionsMenu (r : Ref .screen) (hs : s.context.running = false) :
    Refused (removeOptionsMenu r) s := by
  rw [Refused, removeOptionsMenu, Act.bind_apply_ok (managerOf_apply r s),
    Act.bind_apply_ok (resetManager_apply _ s), Act.bind_apply_ok (Act.state_apply _)]
  exact refused_runSync_bind hs

theorem discard_pageSize_of_open (hf : s.state.faults .pageSize = .pass) (hp : s.state.page.isSome) :
    (discard pageSize : Do Unit) s = (.ok (), s) := by
  obtain ⟨page, hpage⟩ := Option.isSome_iff_exists.mp hp
  have hconsult : consult .pageSize s = (.ok (), s) := by rw [consult_apply, hf]
  have hactive : activePage s = (.ok page, s) := by
    rw [activePage, Act.bind_apply_ok (Act.state_apply s), hpage]
    rfl
  have hsize : pageSize s = (.ok page.size, s) := by
    rw [pageSize, Act.bind_apply_ok hconsult, Act.bind_apply_ok hactive]
    rfl
  change (pageSize >>= fun _ => pure ()) s = _
  rw [Act.bind_apply_ok hsize]
  rfl

/-- A recognised orientation lays the page out anew, and that is work. -/
theorem refused_handleOrientation {device : DeviceOrientation} (hd : device.group.isSome)
    (hf : s.state.faults .pageSize = .pass) (hp : s.state.page.isSome)
    (hs : s.context.running = false) (handle : Handle) :
    Refused (handleOrientation handle device) s := by
  obtain ⟨group, hgroup⟩ := Option.isSome_iff_exists.mp hd
  rw [Refused, handleOrientation, Act.bind_apply_ok (discard_pageSize_of_open hf hp)]
  simp only [hgroup]
  rw [Act.bind_apply_ok (Act.state_apply s)]
  exact refused_runSync_bind hs

/-- The calls that would have to change the page, a grid or a list of children are refused. -/
structure RefusesAll (s : Scene Deck) : Prop where
  present : ∀ p bar, Refused (present p bar) s
  presentWithTransition : ∀ p bar kind, Refused (presentWithTransition p bar kind) s
  showScreen : ∀ r, Refused (showScreen r) s
  showWithTransition : ∀ r kind, Refused (showWithTransition r kind) s
  /-- Adding a child, and taking a child away that is there. -/
  treeCall : ∀ {x : TreeCall} {t c}, x.meant t s.state = some c → Refused (x.perform t) s
  enableBar : ∀ {r p}, (parent r s).1 = .ok p → Refused (enableBar r) s
  removeOptionsMenu : ∀ r, Refused (removeOptionsMenu r) s
  handle : ∀ {device : DeviceOrientation}, device.group.isSome →
    s.state.faults .pageSize = .pass → s.state.page.isSome →
    (∀ t, Refused (trackerHandle t device) s) ∧ ∀ r, Refused (rotate r device) s
  invoke : ∀ x, Refused (invoke x) s

/-- Once the flag is down, each of these calls is refused where its work would begin. -/
theorem refusesAll (hs : s.context.running = false) : RefusesAll s where
  present p bar := refused_present p bar hs
  presentWithTransition p bar kind := refused_presentWithTransition p bar kind hs
  showScreen r := by
    rw [Refused, showScreen_apply]
    exact (refused_present _ _ hs).bind _
  showWithTransition r kind := by
    rw [Refused, showWithTransition_apply]
    exact (refused_presentWithTransition _ _ kind hs).bind _
  treeCall hm := refused_treeCall hm hs
  enableBar hp := refused_enableBar hp hs
  removeOptionsMenu r := refused_removeOptionsMenu r hs
  handle hd hf hp := by
    constructor
    · intro t
      rw [Refused, Session.trackerHandle_apply]
      exact refused_handleOrientation hd hf hp hs _
    · intro r
      rw [Refused, Session.rotate_apply]
      exact refused_handleOrientation hd hf hp hs _
  invoke _ := refused_runSync_bind hs

end Deck

namespace Session

open Deck
open Act (Composed Keeps OnState)

variable {setup : Setup} {start s : Scene Deck}

/-- What the host does to its page and to its grids without asking any screen. -/
def Step.pastScreens : Step → Bool
  | .openPage | .closePage | .resize _ | .setPageBar _ | .setPageContent _ | .onGrid _ _ => true
  | _ => false

theorem halted_performOnScreen (r : Ref .screen) (x : ScreenStep) :
    Keeps Halted (performOnScreen r x) := by
  cases x with
  | setProperty name value => exact keeps_outcome (keeps_done (halted_setProperty r name value))
  | addChild child =>
    have hadd (c : Child) : Keeps Halted (outcome do
        let tree := ((← Act.state).screens.get r).tree
        done (addChild tree c)) :=
      keeps_outcome (Keeps.state.bind fun _ => keeps_done (halted_addChild _ c))
    rw [performOnScreen]
    cases child with
    | widget name => exact keeps_named fun w => hadd (.widget w)
    | screen name => exact keeps_named fun q => hadd (.screen q)
  | removeChild h =>
    exact keeps_outcome (Keeps.state.bind fun _ => (halted_removeChild _ h).bind fun _ => Keeps.pure _)
  | removeAt i =>
    exact keeps_outcome (Keeps.state.bind fun _ => (halted_removeChildAt _ i).bind fun _ =>
      Keeps.state.bind fun _ => Keeps.pure _)
  | present => exact keeps_outcome (keeps_done (halted_showScreen r))
  | transition kind => exact keeps_outcome (keeps_done (halted_showWithTransition r kind))
  | enable => exact keeps_outcome (keeps_done (halted_enableBar r))
  | visible value => exact keeps_outcome (keeps_done (halted_setBarVisible r value))
  | removeMenu => exact keeps_outcome (keeps_done (halted_removeOptionsMenu r))
  | rotate raw =>
    exact keeps_outcome (Keeps.bind (Keeps.state.bind fun _ => halted_trackerHandle _ _) fun _ =>
      Keeps.pure _)
  | _ =>
    exact keeps_of_composed (composed_performOnScreen r (fun _ hv => False.elim hv)
      (fun hg => False.elim hg) (fun _ _ => inferInstance) fun _ => inferInstance)

theorem halted_performOnTree (t : Ref .tree) (x : TreeStep) : Keeps Halted (performOnTree t x) := by
  refine keeps_withView ?_ _
  cases x with
  | add child =>
    cases child with
    | widget name => exact keeps_named fun w => keeps_outcome (keeps_done (halted_addChild t (.widget w)))
    | screen name => exact keeps_named fun q => keeps_outcome (keeps_done (halted_addChild t (.screen q)))
  | remove h => exact keeps_outcome ((halted_removeChild t h).bind fun _ => Keeps.pure _)
  | removeAt i =>
    exact keeps_outcome ((halted_removeChildAt t i).bind fun _ => Keeps.state.bind fun _ => Keeps.pure _)
  | debug => exact Keeps.state.bind fun _ => Keeps.pure _

theorem halted_performOnPresenter (p : Ref .presenter) (x : PresenterStep) :
    Keeps Halted (performOnPresenter p x) := by
  refine keeps_withView ?_ _
  cases x with
  | present bar => exact keeps_namedBar fun b => keeps_outcome (keeps_done (halted_present p b))
  | transition bar kind =>
    exact keeps_namedBar fun b => keeps_outcome (keeps_done (halted_presentWithTransition p b kind))
  | current =>
    exact keeps_outcome ((keeps_of_composed (composed_isCurrentContent p)).bind fun _ => Keeps.pure _)

/-- What goes through screens, trees, presenters or switches respects the shutdown. The steps left out are
those by which the host changes its own page and grids. -/
theorem halted_perform {step : Step} (h : step.pastScreens = false) : Keeps Halted (perform step) := by
  cases step with
  | openPage | closePage | resize size | setPageBar bar | setPageContent grid | onGrid name x => cases h
  | shutdown => exact Keeps.shutdown.bind fun _ => Keeps.context.bind fun _ => Keeps.pure _
  | servicesDebug => exact Keeps.context.bind fun _ => Keeps.state.bind fun _ => Keeps.pure _
  | notify raw => exact keeps_done (halted_notifyOrientation _)
  | trackerHandle name raw =>
    exact keeps_named fun t => keeps_outcome ((halted_trackerHandle t _).bind fun _ => Keeps.pure _)
  | switch position x =>
    cases x with
    | invoke =>
      refine Keeps.state.bind fun d => ?_
      cases d.pending[position]? with
      | none => exact Keeps.pure _
      | some y =>
        exact (keeps_of_composed (composed_dropSwitch position)).bind fun _ =>
          keeps_outcome ((halted_invoke y).bind fun _ => Keeps.pure _)
    | _ =>
      exact keeps_of_composed (composed_perform_of rfl (fun _ hv => False.elim hv)
        (fun hg => False.elim hg) (fun _ _ => inferInstance) fun _ => inferInstance)
  | onScreen name x => exact keeps_named fun r => halted_performOnScreen r x
  | onTree name x => exact keeps_named fun t => halted_performOnTree t x
  | onPresenter name x => exact keeps_named fun p => halted_performOnPresenter p x
  | _ =>
    exact keeps_of_composed (composed_perform_of rfl (fun _ hv => False.elim hv)
      (fun hg => False.elim hg) (fun _ _ => inferInstance) fun _ => inferInstance)

theorem halted_observeAll {steps : List (Via × Step)} (h : ∀ x ∈ steps, x.2.pastScreens = false)
    (s : Scene Deck) : Halted s (observeAll steps s).2 :=
  keeps_observeAll (fun x hx => keeps_observe_of x.1 (halted_perform (h x hx)) fun reply =>
    keeps_of_composed (composed_look x.2 reply)) s

/-- Once a session has shut its context down, whatever is done with screens, trees, presenters,
trackers and switches leaves the page, every grid and the children of every living screen as they are,
and the calls that would have to change one of these are refused. Which bar the page has is part of
the page, and whether that bar shows is not. -/
theorem frozen_after_shutdown (h : setup.start = .ok start) (pre : List (Via × Step)) :
    (∀ u : Scene Deck, ((Act.shutdown : Do Unit) u).2.context.running = false) ∧
    let s := (observeAll pre start).2
    s.context.running = false → RefusesAll s ∧
      ∀ post : List (Via × Step), (∀ x ∈ post, x.2.pastScreens = false) →
        let t := (observeAll post s).2
        t.context.running = false ∧ t.state.page = s.state.page ∧
          (∀ {g x}, s.state.grids.get? g = some x → t.state.grids.get? g = some x) ∧
          ∀ {r x}, s.state.screens.get? r = some x → ∃ y, t.state.screens.get? r = some y ∧
            (y.alive = true → t.state.children y.tree = s.state.children x.tree) := by
  constructor
  · intro u
    obtain ⟨r, c, n, hc, hu⟩ := Act.shutdown_cases u
    rw [hu]
    exact hc
  · intro s hs
    refine ⟨refusesAll hs, fun post hpost => ?_⟩
    have hfurnished : s.state.Furnished :=
      (upholds_observeAll pre start).furnished (furnished_start h)
    obtain ⟨hstopped, hfrozen⟩ := halted_observeAll hpost s hs
    refine ⟨hstopped, hfrozen.page, hfrozen.grids, fun {r x} hx => ?_⟩
    obtain ⟨y, hy, hyx⟩ := hfrozen.parts hx
    refine ⟨y, hy, fun halive => ?_⟩
    have htree : y.tree = x.tree := congrArg Prod.fst hyx
    obtain ⟨-, hkept⟩ := hfrozen.children hfurnished hx hy halive
    rw [htree, children, children, Store.get, Store.get, hkept]

def shutWithChild : List (Via × Step) :=
  [(.direct, .openScreen "a" ⟨1⟩), (.direct, .widget "w" ⟨2⟩ none),
    (.direct, .onScreen "a" (.addChild (.widget "w"))), (.direct, .onScreen "a" .present),
    (.direct, .shutdown)]

def lateCalls : List (Via × Step) :=
  [(.direct, .onScreen "a" (.removeChild ⟨2⟩)), (.direct, .notify 34), (.thread, .onScreen "a" .enable)]

/-- The child stays where it is, and the page keeps its size and its content. -/
theorem child_stays_after_shutdown :
    let s := (observeAll shutWithChild newSession).2
    let t := (observeAll lateCalls s).2
    s.context.running = false ∧ s.state.shownGrid = some ⟨0⟩ ∧ t.state.page = s.state.page ∧
      t.state.children ⟨0⟩ = [.widget ⟨0⟩] ∧
      Refused ((TreeCall.remove ⟨2⟩).perform ⟨0⟩) s := by
  obtain ⟨-, hstopped⟩ := frozen_after_shutdown start_newSession shutWithChild
  obtain ⟨hrefuses, hlate⟩ := hstopped rfl
  have hscreens : ∀ x ∈ lateCalls, x.2.pastScreens = false := by
    simp [lateCalls, Step.pastScreens]
  obtain ⟨-, hpage, -, hchildren⟩ := hlate lateCalls hscreens
  obtain ⟨y, hy, hkept⟩ := hchildren (r := ⟨0⟩) rfl
  cases hy
  exact ⟨rfl, rfl, hpage, hkept rfl, hrefuses.treeCall rfl⟩

end Session
end ScreenDeck
