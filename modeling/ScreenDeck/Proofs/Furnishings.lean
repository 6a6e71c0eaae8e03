import ScreenDeck.Proofs.SessionHistories

/-! The trees and the managers of screens. Each screen has a tree and a manager of its own, which no
other screen and no name has, and it keeps them whatever is done with the deck. -/

namespace ScreenDeck

/-- Each screen has a part of its own in the store, and no name holds it. -/
structure Store.Owned {kind : Kind} {α : Type} (parts : Store kind α) (part : Screen → Ref kind)
    (named : List (String × Ref kind)) (screens : Store .screen Screen) : Prop where
  there : ∀ {r x}, screens.get? r = some x → (parts.get? (part x)).isSome
  apart : ∀ {r q x y}, screens.get? r = some x → screens.get? q = some y → part x = part y → r = q
  held : ∀ {y}, y ∈ named → (parts.get? y.2).isSome
  unnamed : ∀ {y}, y ∈ named → ∀ {r x}, screens.get? r = some x → part x ≠ y.2

namespace Store.Owned

variable {kind : Kind} {α : Type} {parts parts' : Store kind α} {part : Screen → Ref kind}
  {named : List (String × Ref kind)} {screens screens' : Store .screen Screen}

/-- Parts may be added and screens may change, as long as no screen exchanges its part. -/
theorem congr (h : parts.Owned part named screens)
    (hp : ∀ {t}, (parts.get? t).isSome → (parts'.get? t).isSome)
    (hs : ∀ r, (screens'.get? r).map part = (screens.get? r).map part) :
    parts'.Owned part named screens' := by
  have hback {r x} (hx : screens'.get? r = some x) :
      ∃ y, screens.get? r = some y ∧ part y = part x := by
    have hr := hs r
    rw [hx, Option.map_some] at hr
    exact Option.map_eq_some_iff.mp hr.symm
  constructor
  · intro r x hx
    obtain ⟨y, hy, hyx⟩ := hback hx
    exact hp (hyx ▸ h.there hy)
  · intro r q x y hx hy hxy
    obtain ⟨x', hx', hxx'⟩ := hback hx
    obtain ⟨y', hy', hyy'⟩ := hback hy
    exact h.apart hx' hy' (hxx'.trans (hxy.trans hyy'.symm))
  · intro y hy
    exact hp (h.held hy)
  · intro y hy r x hx
    obtain ⟨x', hx', hxx'⟩ := hback hx
    exact hxx' ▸ h.unnamed hy hx'

/-- The part of the new screen is made with it, so nobody else has it. -/
theorem addScreen (h : parts.Owned part named screens) (a : α) {x : Screen}
    (hx : part x = (parts.add a).1) : (parts.add a).2.Owned part named (screens.add x).2 := by
  have hold {r y} (hy : screens.get? r = some y) : part y ≠ part x := by
    rw [hx]
    exact ne_fst_add (h.there hy) a
  constructor
  · intro r y hy
    rcases get?_add_eq_some hy with hy | ⟨-, rfl⟩
    · exact isSome_get?_add (h.there hy) a
    · rw [hx, get?_add]
      rfl
  · intro r q y z hy hz hyz
    rcases get?_add_eq_some hy with hy' | ⟨hr, hyx⟩ <;>
      rcases get?_add_eq_some hz with hz' | ⟨hq, hzx⟩
    · exact h.apart hy' hz' hyz
    · exact absurd (hzx ▸ hyz) (hold hy')
    · exact absurd (hyx ▸ hyz.symm) (hold hz')
    · rw [hr, hq]
  · intro y hy
    exact isSome_get?_add (h.held hy) a
  · intro y hy r z hz
    rcases get?_add_eq_some hz with hz | ⟨-, rfl⟩
    · exact h.unnamed hy hz
    · rw [hx]
      exact (ne_fst_add (h.held hy) a).symm

theorem addNamed (h : parts.Owned part named screens) (name : String) (a : α) :
    (parts.add a).2.Owned part (Names.bind named name (parts.add a).1) screens where
  there hx := isSome_get?_add (h.there hx) a
  apart := h.apart
  held hy := by
    rcases List.mem_cons.mp hy with rfl | hy
    · rw [get?_add]
      rfl
    · exact isSome_get?_add (h.held (List.mem_filter.mp hy).1) a
  unnamed hy _ _ hx := by
    rcases List.mem_cons.mp hy with rfl | hy
    · exact ne_fst_add (h.there hx) a
    · exact h.unnamed (List.mem_filter.mp hy).1 hx

end Store.Owned

namespace Deck

variable {d e f : Deck}

structure Furnished (d : Deck) : Prop where
  named : ∀ {y}, y ∈ d.names.screens → (d.screens.get? y.2).isSome
  trees : d.trees.Owned Screen.tree d.names.trees d.screens
  managers : d.managers.Owned Screen.manager d.names.managers d.screens

theorem Furnished.of_no_screen (hs : d.screens = {}) (hn : d.names = {}) : d.Furnished := by
  have hnone {r x} : d.screens.get? r ≠ some x := by
    rw [hs]
    exact nofun
  constructor <;> rw [hn]
  · exact nofun
  · exact ⟨fun hx => absurd hx hnone, fun hx => absurd hx hnone, nofun, nofun⟩
  · exact ⟨fun hx => absurd hx hnone, fun hx => absurd hx hnone, nofun, nofun⟩

/-- What is done leaves each screen with its own tree and its own manager, and a new screen gets a
manager that was not there before. -/
structure Upholds (d e : Deck) : Prop where
  furnished : d.Furnished → e.Furnished
  managers : ∀ {m}, (d.managers.get? m).isSome → (e.managers.get? m).isSome
  parts : ∀ {r x}, d.screens.get? r = some x → ∃ y, e.screens.get? r = some y ∧ y.parts = x.parts
  fresh : ∀ {r y}, d.screens.get? r = none → e.screens.get? r = some y →
    d.managers.get? y.manager = none

namespace Upholds

theorem refl (d : Deck) : Upholds d d where
  furnished := id
  managers := id
  parts hx := ⟨_, hx, rfl⟩
  fresh hn hx := absurd (hn.symm.trans hx) nofun

theorem trans (h : Upholds d e) (h' : Upholds e f) : Upholds d f where
  furnished hd := h'.furnished (h.furnished hd)
  parts hx := by
    obtain ⟨y, hy, hyx⟩ := h.parts hx
    obtain ⟨z, hz, hzy⟩ := h'.parts hy
    exact ⟨z, hz, hzy.trans hyx⟩
  managers hm := h'.managers (h.managers hm)
  fresh {r z} hn hz := by
    cases hr : e.screens.get? r with
    | none =>
      cases hm : d.managers.get? z.manager with
      | none => rfl
      | some w =>
        have hlater := h.managers (Option.isSome_iff_exists.mpr ⟨w, hm⟩)
        rw [h'.fresh hr hz] at hlater
        cases hlater
    | some y =>
      obtain ⟨z', hz', hzy⟩ := h'.parts hr
      obtain rfl := Option.some.inj (hz.symm.trans hz')
      have hmanager : z.manager = y.manager := congrArg Prod.snd hzy
      rw [hmanager]
      exact h.fresh hn hr

theorem of_screens (hf : d.Furnished → e.Furnished)
    (hm : ∀ {m}, (d.managers.get? m).isSome → (e.managers.get? m).isSome)
    (hs : ∀ r, (e.screens.get? r).map Screen.parts = (d.screens.get? r).map Screen.parts) :
    Upholds d e where
  furnished := hf
  managers := hm
  parts {r x} hx := by
    have hr := hs r
    rw [hx, Option.map_some] at hr
    exact Option.map_eq_some_iff.mp hr
  fresh {r y} hn hy := by
    have hr := hs r
    rw [hn, hy] at hr
    cases hr

theorem of_parts (ht : ∀ {t}, (d.trees.get? t).isSome → (e.trees.get? t).isSome)
    (hm : ∀ {m}, (d.managers.get? m).isSome → (e.managers.get? m).isSome)
    (hs : ∀ r, (e.screens.get? r).map Screen.parts = (d.screens.get? r).map Screen.parts)
    (hns : e.names.screens = d.names.screens) (hnt : e.names.trees = d.names.trees)
    (hnm : e.names.managers = d.names.managers) : Upholds d e := by
  refine of_screens (fun hd => ?_) hm hs
  have hpart {β : Type} (p : Ref .tree × Ref .manager → β) (r : Ref .screen) :
      (e.screens.get? r).map (fun x => p x.parts) = (d.screens.get? r).map fun x => p x.parts := by
    have h := congrArg (Option.map p) (hs r)
    rwa [Option.map_map, Option.map_map] at h
  refine ⟨fun {y} hy => ?_, hnt ▸ hd.trees.congr ht (hpart Prod.fst),
    hnm ▸ hd.managers.congr hm (hpart Prod.snd)⟩
  rw [hns] at hy
  have hthere := hd.named hy
  rwa [← Option.isSome_map (f := Screen.parts), ← hs, Option.isSome_map] at hthere

end Upholds

theorem Calm.upholds (h : Calm d e) : Upholds d e :=
  .of_parts h.trees h.managers h.parts h.namedScreens h.namedTrees h.namedManagers

/-! How long screens and listeners live leaves grids and registries alone. -/

theorem furniture_release (x : Subscription) (d : Deck) : (d.release x).2.furniture = d.furniture := by
  rw [release_eq]
  rfl

theorem furniture_takeTracker (name : String) (handle : Handle) (d : Deck) :
    (d.takeTracker name handle).furniture = d.furniture := by
  unfold takeTracker nameTracker
  cases (d.makeTracker handle).2.names.trackers.lookup name <;> rfl

theorem furniture_dropTracker (name : String) (d : Deck) :
    (d.dropTracker name).2.furniture = d.furniture := by
  unfold dropTracker
  cases d.names.trackers.lookup name <;> rfl

theorem furniture_attach (name : String) (t : Ref .tracker) (d : Deck) :
    (d.attach name t).furniture = d.furniture := by
  unfold attach nameSubscription
  cases (d.listen (.tracker t)).2.names.subscriptions.lookup name with
  | none => rfl
  | some o => exact furniture_release o _

theorem furniture_releaseNamed (name : String) (x : Subscription) (d : Deck) :
    (releaseNamed name x d).2.furniture = d.furniture := furniture_release x d

theorem furniture_dropSubscription (name : String) (d : Deck) :
    (d.dropSubscription name).2.furniture = d.furniture := by
  unfold dropSubscription
  cases d.names.subscriptions.lookup name with
  | none => rfl
  | some o => exact furniture_release o _

instance : Act.Steady (Act.OnState Calm) := Act.steady_onState Calm.refl Calm.trans

theorem calm_bury (s : Ref .screen) (d : Deck) : Calm d (d.bury s) := by
  have hended : Calm d (d.modifyScreen s fun x => { x with alive := false }) :=
    .modifyScreen d s fun _ => rfl
  refine hended.trans (Calm.trans ?_ (.modifyTree _ _ _))
  exact .of_eq rfl

theorem calm_letGo (cs : List Child) (d : Deck) : Calm d (d.letGo cs) :=
  spans_letGo (fun _ => calm_bury _ _) (fun x d => .of_eq (furniture_release x d)) cs d

theorem calm_retire (s : Ref .screen) (d : Deck) : Calm d (d.retire s) :=
  (Calm.of_eq (furniture_release _ d)).trans (.modifyScreen _ s fun _ => rfl)

/-! What is new. -/

theorem screens_makeScreen_parts (handle : Handle) (d : Deck) :
    ∃ x, x.parts = (⟨d.trees.size⟩, ⟨d.managers.size⟩) ∧
      (d.makeScreen handle).2.screens = (d.screens.add x).2 := ⟨_, rfl, rfl⟩

def nameNewScreen (name : String) (handle : Handle) (d : Deck) : Deck :=
  { (d.makeScreen handle).2 with
    names.screens := Names.bind d.names.screens name (d.makeScreen handle).1 }

theorem takeScreen_eq (name : String) (handle : Handle) (d : Deck) :
    d.takeScreen name handle = match d.names.screens.lookup name with
      | none => d.nameNewScreen name handle
      | some o => (d.nameNewScreen name handle).letGo [.screen o] := by
  have hn : (d.makeScreen handle).2.names = d.names := rfl
  rw [takeScreen, nameScreen, hn]
  cases d.names.screens.lookup name <;> rfl

theorem upholds_nameNewScreen (name : String) (handle : Handle) (d : Deck) :
    Upholds d (d.nameNewScreen name handle) := by
  obtain ⟨x, hx, hs⟩ := screens_makeScreen_parts handle d
  simp only [Screen.parts, Prod.mk.injEq] at hx
  obtain ⟨htree, hmanager⟩ := hx
  have hs : (d.nameNewScreen name handle).screens = (d.screens.add x).2 := hs
  refine ⟨fun hd => ⟨fun {y} hy => ?_, ?_, ?_⟩, fun hm => Store.isSome_get?_add hm _,
    fun {r y} hy => ?_, fun {r y} hn hy => ?_⟩
  · rw [hs]
    rcases List.mem_cons.mp hy with rfl | hy
    · exact Option.isSome_iff_exists.mpr ⟨x, Store.get?_add d.screens x⟩
    · exact Store.isSome_get?_add (hd.named (List.mem_filter.mp hy).1) x
  · rw [hs]
    exact hd.trees.addScreen _ htree
  · rw [hs]
    exact hd.managers.addScreen _ hmanager
  · rw [hs]
    exact ⟨y, Store.get?_add_of_get? hy _, rfl⟩
  · rw [hs] at hy
    rcases Store.get?_add_eq_some hy with hy | ⟨-, rfl⟩
    · cases hn.symm.trans hy
    · rw [hmanager]
      exact Store.get?_fst_add d.managers (default : BarManager)

theorem upholds_takeScreen (name : String) (handle : Handle) (d : Deck) :
    Upholds d (d.takeScreen name handle) := by
  have hnew := upholds_nameNewScreen name handle d
  rw [takeScreen_eq]
  cases d.names.screens.lookup name with
  | none => exact hnew
  | some o => exact hnew.trans (calm_letGo _ _).upholds

theorem upholds_unnameScreen (name : String) (d : Deck) :
    Upholds d { d with names.screens := Names.unbind d.names.screens name } :=
  .of_screens (fun hd => ⟨fun hy => hd.named (List.mem_filter.mp hy).1, hd.trees, hd.managers⟩) id
    fun _ => rfl

theorem upholds_dropScreen (name : String) (d : Deck) : Upholds d (d.dropScreen name).2 := by
  unfold dropScreen
  cases d.names.screens.lookup name with
  | none => exact .refl d
  | some o => exact (upholds_unnameScreen name d).trans (calm_letGo [.screen o] _).upholds

theorem upholds_takeManager (name : String) (d : Deck) : Upholds d (d.takeManager name) :=
  .of_screens (fun hd => ⟨hd.named, hd.trees, hd.managers.addNamed name _⟩)
    (fun hm => Store.isSome_get?_add hm _) fun _ => rfl

def nameNewTree (name : String) (owner : Handle) (grid : Ref .grid) (d : Deck) : Deck :=
  { (d.makeTree owner grid).2 with
    names.trees := Names.bind d.names.trees name (d.makeTree owner grid).1 }

theorem upholds_nameNewTree (name : String) (owner : Handle) (grid : Ref .grid) (d : Deck) :
    Upholds d (d.nameNewTree name owner grid) :=
  .of_screens (fun hd => ⟨hd.named, hd.trees.addNamed name _, hd.managers⟩) id fun _ => rfl

theorem takeTree_eq (name : String) (owner : Handle) (grid : Ref .grid) (d : Deck) :
    d.takeTree name owner grid = match d.names.trees.lookup name with
      | none => d.nameNewTree name owner grid
      | some o =>
        let e := d.nameNewTree name owner grid
        (e.modifyTree o fun x => { x with children := [] }).letGo (e.trees.get o).children := by
  have hn : (d.makeTree owner grid).2.names = d.names := rfl
  rw [takeTree, nameTree, hn]
  cases d.names.trees.lookup name <;> rfl

theorem upholds_takeTree (name : String) (owner : Handle) (grid : Ref .grid) (d : Deck) :
    Upholds d (d.takeTree name owner grid) := by
  have hnew := upholds_nameNewTree name owner grid d
  rw [takeTree_eq]
  cases d.names.trees.lookup name with
  | none => exact hnew
  | some o => exact hnew.trans ((Calm.modifyTree _ o _).trans (calm_letGo _ _)).upholds

instance : Act.Steady (Act.OnState Upholds) := Act.steady_onState Upholds.refl Upholds.trans

instance : Walking Upholds where
  still _ hs := hs.toCalm.upholds
  letGo cs d := (calm_letGo cs d).upholds
  retire _ := (calm_retire _ _).upholds
  takeScreen := upholds_takeScreen
  dropScreen := upholds_dropScreen
  takeTree := upholds_takeTree
  takeManager := upholds_takeManager
  takeTracker name handle d := (Calm.of_eq (furniture_takeTracker name handle d)).upholds
  dropTracker name d := (Calm.of_eq (furniture_dropTracker name d)).upholds
  attach _ name := (Calm.of_eq (furniture_attach name _ _)).upholds
  releaseNamed _ := (Calm.of_eq (furniture_releaseNamed _ _ _)).upholds
  dropSubscription name d := (Calm.of_eq (furniture_dropSubscription name d)).upholds

instance : Reshaping Upholds where
  grid _ _ _ := .of_parts id id (fun _ => rfl) rfl rfl rfl
  tree _ t d := (Calm.modifyTree d t _).upholds

theorem upholds_modifyManager (m : Ref .manager) (f : BarManager → BarManager) (d : Deck) :
    Upholds d (d.modifyManager m f) :=
  .of_parts id (fun hm => by rwa [modifyManager, Store.isSome_get?_modify]) (fun _ => rfl) rfl rfl rfl

instance (m : Ref .manager) : Itemizing Upholds m where
  register _ _ d := upholds_modifyManager m _ d
  reset d := by
    have hbar : Calm d d.makeBar.2 := .of_eq rfl
    exact hbar.upholds.trans (upholds_modifyManager m _ _)

instance : Turning Upholds where
  turn m value d := (calm_setVisible m value d).upholds

theorem admits_upholds (v : Event) : Admits Upholds v := fun hm => by
  cases hm <;> exact .of_parts id id (fun _ => rfl) rfl rfl rfl

end Deck

namespace Session

open Deck

variable {setup : Setup} {start : Scene Deck}

theorem upholds_perform (step : Step) : Act.Keeps (Act.OnState Upholds) (perform step) :=
  keeps_perform_of (fun v _ => admits_upholds v) (fun _ => inferInstance) (fun _ _ => inferInstance)
    fun _ => inferInstance

theorem upholds_observe (via : Via) (step : Step) (s : Scene Deck) :
    Upholds s.state (observe via step s).2.state :=
  keeps_observe_of via (upholds_perform step) (fun reply => (composed_look step reply).keeps) s

theorem upholds_observeAll (steps : List (Via × Step)) (s : Scene Deck) :
    Upholds s.state (observeAll steps s).2.state :=
  keeps_observeAll (T := Act.OnState Upholds) (fun x _ => upholds_observe x.1 x.2) s

theorem furnished_start (h : setup.start = .ok start) : start.state.Furnished := by
  obtain ⟨settings, -, rfl⟩ := start_eq_ok h
  have hnew : (setup.deck settings).screens = {} ∧ (setup.deck settings).names = {} := by
    unfold Setup.deck
    dsimp only
    split <;> exact ⟨rfl, rfl⟩
  exact .of_no_screen hnew.1 hnew.2

end Session
end ScreenDeck
