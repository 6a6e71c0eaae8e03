import ScreenDeck.Proofs.Asides

/-! What the moves of a deck have to do with its grids, its trees and the registries of its managers.
Few moves touch them, and the relations that do not hold over all moves hold over the others. -/

namespace ScreenDeck

def Screen.parts (x : Screen) : Ref .tree × Ref .manager := (x.tree, x.manager)

def Screen.holder (x : Screen) : Handle × Option Parent × Ref .manager := (x.handle, x.parent, x.manager)

def BarManager.look (x : BarManager) : Ref .bar × Bool := (x.bar, x.visible)

namespace Deck

variable {d e f : Deck}

def registryOf (m : Ref .manager) (d : Deck) : Registry := (d.managers.get m).registry

/-- A change that neither the page nor any grid or registry sees, nor what screens, trees and managers
are called. Trees may lose their children. -/
structure Calm (d e : Deck) : Prop where
  page : e.page = d.page
  grids : ∀ {g x}, d.grids.get? g = some x → e.grids.get? g = some x
  trees : ∀ {t}, (d.trees.get? t).isSome → (e.trees.get? t).isSome
  managers : ∀ {m}, (d.managers.get? m).isSome → (e.managers.get? m).isSome
  registries : ∀ m, e.registryOf m = d.registryOf m
  parts : ∀ r, (e.screens.get? r).map Screen.parts = (d.screens.get? r).map Screen.parts
  namedScreens : e.names.screens = d.names.screens
  namedTrees : e.names.trees = d.names.trees
  namedManagers : e.names.managers = d.names.managers

def furniture (d : Deck) :=
  (d.page, d.grids, d.trees, d.managers, d.screens, d.names.screens, d.names.trees,
    d.names.managers)

namespace Calm

theorem of_eq (h : e.furniture = d.furniture) : Calm d e := by
  simp only [furniture, Prod.mk.injEq] at h
  obtain ⟨hpage, hgrids, htrees, hmanagers, hscreens, hnamedScreens, hnamedTrees, hnamedManagers⟩ := h
  exact {
    page := hpage
    grids := fun hx => hgrids ▸ hx
    trees := fun ht => htrees ▸ ht
    managers := fun hm => hmanagers ▸ hm
    registries := fun m => by rw [registryOf, registryOf, hmanagers]
    parts := fun r => by rw [hscreens]
    namedScreens := hnamedScreens
    namedTrees := hnamedTrees
    namedManagers := hnamedManagers }

theorem refl (d : Deck) : Calm d d := of_eq rfl

theorem trans (h : Calm d e) (h' : Calm e f) : Calm d f where
  page := h'.page.trans h.page
  grids hx := h'.grids (h.grids hx)
  trees ht := h'.trees (h.trees ht)
  managers hm := h'.managers (h.managers hm)
  registries m := (h'.registries m).trans (h.registries m)
  parts r := (h'.parts r).trans (h.parts r)
  namedScreens := h'.namedScreens.trans h.namedScreens
  namedTrees := h'.namedTrees.trans h.namedTrees
  namedManagers := h'.namedManagers.trans h.namedManagers

theorem modifyScreen (d : Deck) (s : Ref .screen) {f : Screen → Screen}
    (hf : ∀ x, (f x).parts = x.parts) : Calm d (d.modifyScreen s f) where
  page := rfl
  grids hx := hx
  trees ht := ht
  managers hm := hm
  registries _ := rfl
  parts r := Store.map_get?_modify d.screens s r hf
  namedScreens := rfl
  namedTrees := rfl
  namedManagers := rfl

theorem modifyTree (d : Deck) (t : Ref .tree) (f : Tree → Tree) : Calm d (d.modifyTree t f) where
  page := rfl
  grids hx := hx
  trees ht := by rwa [Deck.modifyTree, Store.isSome_get?_modify]
  managers hm := hm
  registries _ := rfl
  parts _ := rfl
  namedScreens := rfl
  namedTrees := rfl
  namedManagers := rfl

end Calm

structure SameBars (d e : Deck) : Prop where
  bars : ∀ {b x}, d.bars.get? b = some x → e.bars.get? b = some x
  looks : ∀ m, (e.managers.get? m).map BarManager.look = (d.managers.get? m).map BarManager.look
  managed : ∀ r, (e.screens.get? r).map (·.manager) = (d.screens.get? r).map (·.manager)

def wearing (d : Deck) := (d.bars, d.managers, d.screens)

namespace SameBars

theorem of_eq (h : e.wearing = d.wearing) : SameBars d e := by
  simp only [wearing, Prod.mk.injEq] at h
  obtain ⟨hbars, hmanagers, hscreens⟩ := h
  exact ⟨fun hx => hbars ▸ hx, fun m => by rw [hmanagers], fun r => by rw [hscreens]⟩

theorem refl (d : Deck) : SameBars d d := of_eq rfl

theorem trans (h : SameBars d e) (h' : SameBars e f) : SameBars d f where
  bars hx := h'.bars (h.bars hx)
  looks m := (h'.looks m).trans (h.looks m)
  managed r := (h'.managed r).trans (h.managed r)

theorem makeBar (d : Deck) : SameBars d d.makeBar.2 where
  bars hx := Store.get?_add_of_get? hx _
  looks _ := rfl
  managed _ := rfl

theorem modifyScreen (d : Deck) (s : Ref .screen) {f : Screen → Screen}
    (hf : ∀ x, (f x).manager = x.manager) : SameBars d (d.modifyScreen s f) where
  bars hx := hx
  looks _ := rfl
  managed r := Store.map_get?_modify d.screens s r hf

end SameBars

/-- A change that concerns no listener and no bar, neither the page nor any grid, tree or registry. -/
structure Still (d e : Deck) : Prop extends Aside d e, Calm d e, SameBars d e where
  children : ∀ {t x}, d.trees.get? t = some x → e.trees.get? t = some x

theorem Still.of_sameBars (hh : e.hearing = d.hearing) (hf : e.furniture = d.furniture)
    (hb : SameBars d e) : Still d e where
  toAside := .of_eq hh
  toCalm := .of_eq hf
  toSameBars := hb
  children hx := by
    simp only [furniture, Prod.mk.injEq] at hf
    rw [hf.2.2.1]
    exact hx

theorem Still.of_eq (hh : e.hearing = d.hearing) (hf : e.furniture = d.furniture) (hb : e.bars = d.bars) :
    Still d e := by
  refine of_sameBars hh hf (.of_eq ?_)
  simp only [furniture, Prod.mk.injEq] at hf
  rw [wearing, hb, hf.2.2.2.1, hf.2.2.2.2.1]
  rfl

theorem still_modifyScreen (d : Deck) (s : Ref .screen) {f : Screen → Screen}
    (hl : ∀ x, (f x).life = x.life) (hp : ∀ x, (f x).parts = x.parts) :
    Still d (d.modifyScreen s f) where
  toAside := aside_modifyScreen d s hl
  toCalm := .modifyScreen d s hp
  toSameBars := .modifyScreen d s fun x => congrArg Prod.snd (hp x)
  children hx := hx

theorem still_makeGrid (d : Deck) : Still d d.makeGrid.2 where
  toAside := .of_eq rfl
  toSameBars := .of_eq rfl
  page := rfl
  grids hx := Store.get?_add_of_get? hx _
  trees ht := ht
  managers hm := hm
  registries _ := rfl
  parts _ := rfl
  namedScreens := rfl
  namedTrees := rfl
  namedManagers := rfl
  children hx := hx

theorem calm_setVisible (m : Ref .manager) (value : Bool) (d : Deck) :
    Calm d ((d.modifyManager m fun x => { x with visible := value }).modifyBar (d.managers.get m).bar
      fun x => { x with visible := value }) where
  page := rfl
  grids hx := hx
  trees ht := ht
  managers hm := (Store.isSome_get?_modify _ _ _ _).trans hm
  registries q := Store.apply_get_modify (p := BarManager.registry) d.managers m q fun _ => rfl
  parts _ := rfl
  namedScreens := rfl
  namedTrees := rfl
  namedManagers := rfl

/-- A change of which no container hears, and that leaves the flags of managers alone, and who holds the
screens. -/
structure Hushed (d e : Deck) : Prop where
  toggles : e.toggles = d.toggles
  containers : e.containers = d.containers
  flags : ∀ m, (e.managers.get? m).map (·.visible) = (d.managers.get? m).map (·.visible)
  holders : ∀ r, (e.screens.get r).holder = (d.screens.get r).holder

namespace Hushed

theorem of_eq (h : (e.toggles, e.containers, e.managers, e.screens) =
    (d.toggles, d.containers, d.managers, d.screens)) : Hushed d e := by
  simp only [Prod.mk.injEq] at h
  obtain ⟨htoggles, hcontainers, hmanagers, hscreens⟩ := h
  exact ⟨htoggles, hcontainers, fun m => by rw [hmanagers], fun r => by rw [hscreens]⟩

theorem trans (h : Hushed d e) (h' : Hushed e f) : Hushed d f where
  toggles := h'.toggles.trans h.toggles
  containers := h'.containers.trans h.containers
  flags m := (h'.flags m).trans (h.flags m)
  holders r := (h'.holders r).trans (h.holders r)

theorem modifyScreen (d : Deck) (s : Ref .screen) {f : Screen → Screen}
    (hf : ∀ x, (f x).holder = x.holder) : Hushed d (d.modifyScreen s f) where
  toggles := rfl
  containers := rfl
  flags _ := rfl
  holders r := Store.apply_get_modify d.screens s r hf

theorem bury (s : Ref .screen) (d : Deck) : Hushed d (d.bury s) :=
  (modifyScreen d s (f := fun x => { x with alive := false }) fun _ => rfl).trans (of_eq rfl)

theorem release (x : Subscription) (d : Deck) : Hushed d (d.release x).2 := by
  rw [release_eq]
  exact of_eq rfl

end Hushed

def takeScreen (name : String) (handle : Handle) (d : Deck) : Deck :=
  (d.makeScreen handle).2.nameScreen name (d.makeScreen handle).1

def takeTree (name : String) (owner : Handle) (grid : Ref .grid) (d : Deck) : Deck :=
  (d.makeTree owner grid).2.nameTree name (d.makeTree owner grid).1

def takeManager (name : String) (d : Deck) : Deck :=
  { d.makeManager.2 with
    names.managers := Names.bind d.names.managers name d.makeManager.1 }

/-- A relation that holds over all that is done with a deck, as long as neither the page nor any grid,
tree or registry is touched, and no bar. -/
class Walking (R : Deck → Deck → Prop) : Prop extends Act.Steady (Act.OnState R) where
  still : ∀ {d e}, Move d none e → Still d e → R d e
  letGo : ∀ cs d, R d (d.letGo cs)
  retire : ∀ {s d}, (d.screens.get s).disposed = false → R d (d.retire s)
  takeScreen : ∀ name handle d, R d (d.takeScreen name handle)
  dropScreen : ∀ name d, R d (d.dropScreen name).2
  takeTree : ∀ name owner grid d, R d (d.takeTree name owner grid)
  takeManager : ∀ name d, R d (d.takeManager name)
  takeTracker : ∀ name handle d, R d (d.takeTracker name handle)
  dropTracker : ∀ name d, R d (d.dropTracker name).2
  attach : ∀ {other t d}, d.names.trackers.lookup other = some t →
    ∀ name, R d (d.attach name t)
  releaseNamed : ∀ {name x d}, d.names.subscriptions.lookup name = some x →
    R d (releaseNamed name x d).2
  dropSubscription : ∀ name d, R d (d.dropSubscription name).2

/-- A relation that holds over what is done with screens, as long as no container hears of it either. -/
class Strolling (R : Deck → Deck → Prop) : Prop extends Act.Steady (Act.OnState R) where
  hushed : ∀ {d e}, Move d none e → Still d e → Hushed d e → R d e
  letGo : ∀ cs d, R d (d.letGo cs)
  retire : ∀ {s d}, (d.screens.get s).disposed = false → R d (d.retire s)

instance {R : Deck → Deck → Prop} [Walking R] : Strolling R where
  toSteady := Walking.toSteady
  hushed hm hs _ := Walking.still hm hs
  letGo := Walking.letGo
  retire := Walking.retire

class Reshaping (R : Deck → Deck → Prop) : Prop where
  grid : ∀ {f}, GridMove f → ∀ g d, R d (d.modifyGrid g f)
  tree : ∀ {f : List Child → List Child}, TreeMove f → ∀ t d,
    R d (d.modifyTree t fun tree => { tree with children := f tree.children })

class Itemizing (R : Deck → Deck → Prop) (m : Ref .manager) : Prop where
  register : ∀ item times d, R d (d.modifyManager m fun x =>
    { x with registry := (x.registry.registerTimes item times).2 })
  reset : ∀ d, R d (d.makeBar.2.modifyManager m fun _ => { bar := d.makeBar.1 })

class Turning (R : Deck → Deck → Prop) : Prop where
  turn : ∀ m value d, R d ((d.modifyManager m fun x => { x with visible := value }).modifyBar
    (d.managers.get m).bar fun x => { x with visible := value })

section Steady

variable {R : Deck → Deck → Prop} [Act.Steady (Act.OnState R)]

theorem spans_refl (d : Deck) : R d d :=
  Act.Steady.refl (R := Act.OnState R) { context := { mode := .inPlace }, state := d }

theorem spans_trans (h : R d e) (h' : R e f) : R d f :=
  Act.Steady.trans (R := Act.OnState R) (s := { context := { mode := .inPlace }, state := d })
    (t := { context := { mode := .inPlace }, state := e })
    (u := { context := { mode := .inPlace }, state := f }) h h'

/-! What holds over the end of a living screen and over a release holds over all that is let go. -/

theorem spans_letGoWith {one : Ref .screen → List Child → Deck → Deck}
    (ho : ∀ s pending d, R d (one s pending d)) (cs pending : List Child) (d : Deck) :
    R d (letGoWith one cs pending d) := by
  induction cs generalizing d with
  | nil => exact spans_refl d
  | cons c cs ih =>
    cases c with
    | widget w => exact ih d
    | screen s => exact spans_trans (ho s _ d) (ih _)

section Ending

variable (hb : ∀ {s d}, (d.screens.get s).alive = true → R d (d.bury s)) (hr : ∀ x d, R d (d.release x).2)
include hb hr

theorem spans_letGoScreen (depth : Nat) (s : Ref .screen) (pending : List Child) (d : Deck) :
    R d (letGoScreen depth s pending d) := by
  induction depth generalizing s pending d with
  | zero => exact spans_refl d
  | succ depth ih =>
    rw [letGoScreen]
    split
    next ho =>
      have halive : (d.screens.get s).alive = true := by
        simp only [isOrphan, Bool.and_eq_true] at ho
        exact ho.1.1
      exact spans_trans (spans_trans (hb halive) (spans_letGoWith ih _ _ _)) (hr _ _)
    next => exact spans_refl d

theorem spans_letGo (cs : List Child) (d : Deck) : R d (d.letGo cs) :=
  spans_letGoWith (spans_letGoScreen hb hr _) cs [] d

end Ending

end Steady

section Spanning

variable {R : Deck → Deck → Prop} [Spanning R]

instance : Reshaping R where
  grid hf g _ := Spanning.aside (.grid g hf) (.of_eq rfl)
  tree hf t _ := Spanning.aside (.tree t hf) (.of_eq rfl)

instance (m : Ref .manager) : Itemizing R m where
  register item times _ := Spanning.aside (.register m item times) (.of_eq rfl)
  reset _ := Spanning.aside (.resetManager m) (.of_eq rfl)

instance : Turning R where
  turn m value _ := Spanning.aside (.setVisible m value) (.of_eq rfl)

theorem spans_nameScreen (name : String) (s : Ref .screen) (d : Deck) : R d (d.nameScreen name s) := by
  have hn : R d { d with names.screens := Names.bind d.names.screens name s } :=
    Spanning.aside (.names _) (.of_eq rfl)
  unfold nameScreen
  cases d.names.screens.lookup name with
  | none => exact hn
  | some o => exact spans_trans hn (Spanning.letGo _ _)

theorem spans_dropScreen (name : String) (d : Deck) : R d (d.dropScreen name).2 := by
  unfold dropScreen
  cases d.names.screens.lookup name with
  | none => exact spans_refl d
  | some s =>
    refine spans_trans ?_ (Spanning.letGo [.screen s] _)
    exact Spanning.aside (.names _) (.of_eq rfl)

theorem spans_nameTree (name : String) (t : Ref .tree) (d : Deck) : R d (d.nameTree name t) := by
  have hn : R d { d with names.trees := Names.bind d.names.trees name t } :=
    Spanning.aside (.names _) (.of_eq rfl)
  unfold nameTree
  cases d.names.trees.lookup name with
  | none => exact hn
  | some o =>
    refine spans_trans (spans_trans hn ?_) (Spanning.letGo _ _)
    exact Spanning.aside (.tree o .clear) (.of_eq rfl)

theorem spans_takeTree (name : String) (owner : Handle) (grid : Ref .grid) (d : Deck) :
    R d (d.takeTree name owner grid) :=
  spans_trans (e := (d.makeTree owner grid).2)
    (Spanning.aside (.makeTree owner grid) (.of_eq rfl)) (spans_nameTree name _ _)

instance : Walking R where
  toSteady := Spanning.toSteady
  still hm hs := Spanning.aside hm hs.toAside
  letGo := Spanning.letGo
  retire := Spanning.retire
  takeScreen name handle d := spans_trans (Spanning.makeScreen handle d) (spans_nameScreen name _ _)
  dropScreen := spans_dropScreen
  takeTree := spans_takeTree
  takeManager _ d :=
    spans_trans (e := d.makeManager.2) (Spanning.aside .makeManager (.of_eq rfl))
      (Spanning.aside (.names _) (.of_eq rfl))
  takeTracker := Spanning.takeTracker
  dropTracker := Spanning.dropTracker
  attach := Spanning.attach
  releaseNamed := Spanning.releaseNamed
  dropSubscription := Spanning.dropSubscription

end Spanning

end Deck
end ScreenDeck
