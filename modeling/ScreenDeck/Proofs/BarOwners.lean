import ScreenDeck.Proofs.Furnishings

/-! Bars and the managers that have them. The flag of a screen is kept twice, by its manager and by the bar,
and bars are seen by others, too. But a manager has its bar to itself, and a bar that no manager has is never
touched again. -/

namespace ScreenDeck

namespace Deck

variable {d e f : Deck} {b : Ref .bar} {m : Ref .manager} {r : Ref .screen}

/-- Each manager has a bar of its own that shows what the flag says, and each screen a manager of its own. -/
structure Coherent (d : Deck) : Prop where
  shows : ∀ {m x}, d.managers.get? m = some x → d.bars.get? x.bar = some ⟨x.visible⟩
  apart : ∀ {m n x y}, d.managers.get? m = some x → d.managers.get? n = some y → x.bar = y.bar → m = n
  owned : d.managers.Owned Screen.manager [] d.screens

structure Discarded (b : Ref .bar) (d : Deck) : Prop where
  made : (d.bars.get? b).isSome
  free : ∀ {m x}, d.managers.get? m = some x → x.bar ≠ b

/-- What is done keeps every bar with its manager, and does not touch those that no manager has. -/
structure Minds (d e : Deck) : Prop where
  coherent : d.Coherent → e.Coherent
  discarded : ∀ {b}, Discarded b d → Discarded b e
  untouched : ∀ {b}, Discarded b d → e.bars.get? b = d.bars.get? b

theorem Coherent.bar_ne_new (hd : d.Coherent) {x : BarManager} (hx : d.managers.get? m = some x) :
    x.bar ≠ d.makeBar.1 := Store.ne_fst_add (Option.isSome_iff_exists.mpr ⟨_, hd.shows hx⟩) {}

theorem Discarded.new_ne (hb : Discarded b d) : d.makeBar.1 ≠ b := (Store.ne_fst_add hb.made {}).symm

theorem Minds.trans (h : Minds d e) (h' : Minds e f) : Minds d f where
  coherent hd := h'.coherent (h.coherent hd)
  discarded hb := h'.discarded (h.discarded hb)
  untouched hb := (h'.untouched (h.discarded hb)).trans (h.untouched hb)

theorem SameBars.manager (h : SameBars d e) {x : BarManager} (hx : e.managers.get? m = some x) :
    ∃ y, d.managers.get? m = some y ∧ y.bar = x.bar ∧ y.visible = x.visible := by
  have hlooks := h.looks m
  rw [hx, Option.map_some] at hlooks
  obtain ⟨y, hy, hyx⟩ := Option.map_eq_some_iff.mp hlooks.symm
  exact ⟨y, hy, congrArg Prod.fst hyx, congrArg Prod.snd hyx⟩

theorem SameBars.isSome_manager (h : SameBars d e) :
    (e.managers.get? m).isSome = (d.managers.get? m).isSome := by
  have hlooks := congrArg Option.isSome (h.looks m)
  rwa [Option.isSome_map, Option.isSome_map] at hlooks

theorem SameBars.minds (h : SameBars d e) : Minds d e where
  coherent hd := by
    constructor
    · intro m x hx
      obtain ⟨y, hy, hbar, hvisible⟩ := h.manager hx
      rw [← hbar, ← hvisible]
      exact h.bars (hd.shows hy)
    · intro m n x z hx hz hxz
      obtain ⟨x', hx', hbar, -⟩ := h.manager hx
      obtain ⟨z', hz', hbar', -⟩ := h.manager hz
      exact hd.apart hx' hz' (hbar.trans (hxz.trans hbar'.symm))
    · exact hd.owned.congr (fun hm => h.isSome_manager ▸ hm) h.managed
  discarded {b} hb := by
    obtain ⟨x, hx⟩ := Option.isSome_iff_exists.mp hb.made
    refine ⟨Option.isSome_iff_exists.mpr ⟨x, h.bars hx⟩, fun {m x} hx => ?_⟩
    obtain ⟨y, hy, hbar, -⟩ := h.manager hx
    exact hbar ▸ hb.free hy
  untouched {b} hb := by
    obtain ⟨x, hx⟩ := Option.isSome_iff_exists.mp hb.made
    rw [hx, h.bars hx]

instance : Act.Steady (Act.OnState SameBars) := Act.steady_onState SameBars.refl SameBars.trans

instance : Act.Steady (Act.OnState Minds) := Act.steady_onState (fun d => (SameBars.refl d).minds) Minds.trans

/-! What concerns bars. -/

theorem Minds.makeManager (d : Deck) : Minds d d.makeManager.2 where
  coherent hd := by
    constructor
    · intro m x hx
      rcases Store.get?_add_eq_some hx with hx | ⟨-, rfl⟩
      · exact Store.get?_add_of_get? (hd.shows hx) _
      · exact Store.get?_add d.bars {}
    · intro m n x y hx hy hxy
      rcases Store.get?_add_eq_some hx with hx | ⟨hm, rfl⟩ <;>
        rcases Store.get?_add_eq_some hy with hy | ⟨hn, rfl⟩
      · exact hd.apart hx hy hxy
      · exact absurd hxy (hd.bar_ne_new hx)
      · exact absurd hxy.symm (hd.bar_ne_new hy)
      · rw [hm, hn]
    · exact hd.owned.congr (fun hm => Store.isSome_get?_add hm _) fun _ => rfl
  discarded {b} hb := by
    refine ⟨Store.isSome_get?_add hb.made _, fun {m x} hx => ?_⟩
    rcases Store.get?_add_eq_some hx with hx | ⟨-, rfl⟩
    · exact hb.free hx
    · exact hb.new_ne
  untouched hb := Store.get?_add_ne d.bars {} (Store.ne_fst_add hb.made {})

/-- A manager that gets the newest bar has it to itself. -/
theorem Minds.resetManager (m : Ref .manager) (d : Deck) :
    Minds d (d.makeBar.2.modifyManager m fun _ => { bar := d.makeBar.1 }) where
  coherent hd := by
    constructor
    · intro n x hx
      obtain ⟨-, -, -, rfl⟩ | ⟨-, hx⟩ := Store.get?_modify_cases hx
      · exact Store.get?_add d.bars {}
      · exact Store.get?_add_of_get? (hd.shows hx) _
    · intro n q x y hx hy hxy
      obtain ⟨hn, -, -, rfl⟩ | ⟨-, hx⟩ := Store.get?_modify_cases hx <;>
        obtain ⟨hq, -, -, rfl⟩ | ⟨-, hy⟩ := Store.get?_modify_cases hy
      · rw [← hn, ← hq]
      · exact absurd hxy.symm (hd.bar_ne_new hy)
      · exact absurd hxy (hd.bar_ne_new hx)
      · exact hd.apart hx hy hxy
    · exact hd.owned.congr (fun hn => (Store.isSome_get?_modify _ _ _ _).trans hn) fun _ => rfl
  discarded {b} hb := by
    refine ⟨Store.isSome_get?_add hb.made _, fun {n x} hx => ?_⟩
    obtain ⟨-, -, -, rfl⟩ | ⟨-, hx⟩ := Store.get?_modify_cases hx
    · exact hb.new_ne
    · exact hb.free hx
  untouched hb := Store.get?_add_ne d.bars {} (Store.ne_fst_add hb.made {})

/-- The flag and the bar are turned together, if the manager is there. -/
theorem Minds.turn (hm : (d.managers.get? m).isSome) (value : Bool) :
    Minds d ((d.modifyManager m fun x => { x with visible := value }).modifyBar (d.managers.get m).bar
      fun x => { x with visible := value }) := by
  obtain ⟨x, hx⟩ := Option.isSome_iff_exists.mp hm
  rw [Store.get_of_get? hx]
  have hbar {n y} (hy : (d.managers.modify m fun x => { x with visible := value }).get? n = some y) :
      ∃ z, d.managers.get? n = some z ∧ z.bar = y.bar := by
    obtain ⟨-, z, hz, rfl⟩ | ⟨-, hy⟩ := Store.get?_modify_cases hy
    · exact ⟨z, hz, rfl⟩
    · exact ⟨y, hy, rfl⟩
  constructor
  case coherent =>
    intro hd
    constructor
    case shows =>
      intro n y hy
      obtain ⟨rfl, z, hz, rfl⟩ | ⟨hn, hy⟩ := Store.get?_modify_cases hy
      · obtain rfl := Option.some.inj (hx.symm.trans hz)
        exact (Store.get?_modify_self d.bars _ _).trans (by rw [hd.shows hx]; rfl)
      · have hne : x.bar ≠ y.bar := fun he => hn (hd.apart hx hy he)
        exact (Store.get?_modify_ne d.bars _ hne).trans (hd.shows hy)
    case apart =>
      intro n q y z hy hz hyz
      obtain ⟨y', hy', hybar⟩ := hbar hy
      obtain ⟨z', hz', hzbar⟩ := hbar hz
      exact hd.apart hy' hz' (hybar.trans (hyz.trans hzbar.symm))
    case owned => exact hd.owned.congr (fun hn => (Store.isSome_get?_modify _ _ _ _).trans hn) fun _ => rfl
  case discarded =>
    intro b hb
    refine ⟨(Store.isSome_get?_modify _ _ _ _).trans hb.made, fun {n y} hy => ?_⟩
    obtain ⟨z, hz, hzbar⟩ := hbar hy
    exact hzbar ▸ hb.free hz
  case untouched => exact fun hb => Store.get?_modify_ne d.bars _ (hb.free hx)

theorem Minds.makeScreen (handle : Handle) (d : Deck) : Minds d (d.makeScreen handle).2 := by
  obtain ⟨x, hx, hs⟩ := screens_makeScreen_parts handle d
  have hnew : x.manager = (d.managers.add { bar := d.makeBar.1 }).1 := congrArg Prod.snd hx
  have hmanaged := Minds.makeManager d
  refine ⟨fun hd => ⟨(hmanaged.coherent hd).shows, (hmanaged.coherent hd).apart, ?_⟩,
    fun hb => ⟨(hmanaged.discarded hb).made, (hmanaged.discarded hb).free⟩, hmanaged.untouched⟩
  rw [hs]
  exact hd.owned.addScreen { bar := d.makeBar.1 } hnew

/-! What does not concern bars. -/

theorem wearing_release (x : Subscription) (d : Deck) : (d.release x).2.wearing = d.wearing := by
  rw [release_eq]
  rfl

theorem wearing_takeTracker (name : String) (handle : Handle) (d : Deck) :
    (d.takeTracker name handle).wearing = d.wearing := by
  unfold takeTracker nameTracker
  cases (d.makeTracker handle).2.names.trackers.lookup name <;> rfl

theorem wearing_dropTracker (name : String) (d : Deck) : (d.dropTracker name).2.wearing = d.wearing := by
  unfold dropTracker
  cases d.names.trackers.lookup name <;> rfl

theorem wearing_attach (name : String) (t : Ref .tracker) (d : Deck) :
    (d.attach name t).wearing = d.wearing := by
  unfold attach nameSubscription
  cases (d.listen (.tracker t)).2.names.subscriptions.lookup name with
  | none => rfl
  | some o => exact wearing_release o _

theorem wearing_dropSubscription (name : String) (d : Deck) :
    (d.dropSubscription name).2.wearing = d.wearing := by
  unfold dropSubscription
  cases d.names.subscriptions.lookup name with
  | none => rfl
  | some o => exact wearing_release o _

theorem sameBars_letGo (cs : List Child) (d : Deck) : SameBars d (d.letGo cs) := by
  refine spans_letGo (fun {s d} _ => ?_) (fun x d => .of_eq (wearing_release x d)) cs d
  have hended : SameBars d (d.modifyScreen s fun x => { x with alive := false }) :=
    .modifyScreen d s fun _ => rfl
  exact hended.trans (.of_eq rfl)

theorem Minds.of_eq (h : e.wearing = d.wearing) : Minds d e := (SameBars.of_eq h).minds

theorem Minds.letGo (cs : List Child) (d : Deck) : Minds d (d.letGo cs) := (sameBars_letGo cs d).minds

theorem Minds.retire (s : Ref .screen) (d : Deck) : Minds d (d.retire s) := by
  have hreleased : Minds d (d.release (d.screens.get s).subscription).2 := .of_eq (wearing_release _ d)
  refine hreleased.trans (SameBars.minds ?_)
  exact .modifyScreen _ s fun _ => rfl

theorem Minds.takeScreen (name : String) (handle : Handle) (d : Deck) :
    Minds d (d.takeScreen name handle) := by
  have hnew : Minds d (d.nameNewScreen name handle) := (Minds.makeScreen handle d).trans (.of_eq rfl)
  rw [takeScreen_eq]
  cases d.names.screens.lookup name with
  | none => exact hnew
  | some o => exact hnew.trans (.letGo _ _)

theorem Minds.dropScreen (name : String) (d : Deck) : Minds d (d.dropScreen name).2 := by
  unfold Deck.dropScreen
  cases d.names.screens.lookup name with
  | none => exact .of_eq rfl
  | some o =>
    have hunnamed : Minds d { d with names.screens := Names.unbind d.names.screens name } := .of_eq rfl
    exact hunnamed.trans (.letGo [.screen o] _)

theorem Minds.takeTree (name : String) (owner : Handle) (grid : Ref .grid) (d : Deck) :
    Minds d (d.takeTree name owner grid) := by
  have hnew : Minds d (d.nameNewTree name owner grid) := .of_eq rfl
  have hcleared (t : Ref .tree) (d : Deck) :
      Minds d (d.modifyTree t fun x => { x with children := [] }) := .of_eq rfl
  rw [takeTree_eq]
  cases d.names.trees.lookup name with
  | none => exact hnew
  | some o => exact hnew.trans ((hcleared o _).trans (.letGo _ _))

theorem Minds.takeManager (name : String) (d : Deck) : Minds d (d.takeManager name) :=
  (Minds.makeManager d).trans (.of_eq rfl)

instance : Walking Minds where
  still _ h := h.toSameBars.minds
  letGo := Minds.letGo
  retire _ := .retire _ _
  takeScreen := Minds.takeScreen
  dropScreen := Minds.dropScreen
  takeTree := Minds.takeTree
  takeManager := Minds.takeManager
  takeTracker name handle d := .of_eq (wearing_takeTracker name handle d)
  dropTracker name d := .of_eq (wearing_dropTracker name d)
  attach _ name := .of_eq (wearing_attach name _ _)
  releaseNamed _ := .of_eq (wearing_release _ _)
  dropSubscription name d := .of_eq (wearing_dropSubscription name d)

instance : Reshaping Minds where
  grid _ _ _ := .of_eq rfl
  tree _ _ _ := .of_eq rfl

instance (m : Ref .manager) : Itemizing Minds m where
  register _ _ d :=
    SameBars.minds ⟨id, fun n => Store.map_get?_modify d.managers m n fun _ => rfl, fun _ => rfl⟩
  reset d := .resetManager m d

theorem admits_minds (v : Event) : Admits Minds v := fun hm => by
  cases hm <;> exact .of_eq rfl

end Deck
end ScreenDeck
