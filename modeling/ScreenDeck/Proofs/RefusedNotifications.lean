import ScreenDeck.Proofs.ItemIndices

/-! Notifications that a container refuses. The flag of a screen and its bar are set before the container
is told, and a call that finds the flag set tells nobody. So a change that was refused stands, and the
container does not hear of it again. -/

namespace ScreenDeck

theorem Grid.hasReservedRow_reserveRow {g : Grid} (h : g.rows ≠ []) (extent : Single) :
    (g.reserveRow extent).2.hasReservedRow = true := by
  unfold reserveRow
  split
  next hr => exact hr
  next =>
    have hlength : 0 < g.rows.length := List.length_pos_iff.mpr h
    simp only [hasReservedRow, List.length_set, List.length_append, List.length_singleton,
      decide_eq_true_eq]
    omega

namespace Deck

open Session (Setup)

variable {d e : Deck} {es : List Event} {v : Option Event} {s t : Scene Deck} {r : Ref .screen}
  {k : Ref .container}

/-! What is always there. -/

/-- No change of a grid takes its last row away. -/
theorem GridMove.rows_ne_nil {f : Grid → Grid} (hf : GridMove f) {g : Grid} (h : g.rows ≠ []) :
    (f g).rows ≠ [] := by
  cases hf with
  | reserve extent =>
    dsimp only
    unfold Grid.reserveRow
    split
    · exact h
    · simp
  | release =>
    dsimp only
    unfold Grid.releaseReservedRow
    split
    next hr =>
      -- A reserved row is not the only one.
      have hlength : 2 ≤ g.rows.length := of_decide_eq_true hr
      apply List.ne_nil_of_length_pos
      rw [List.length_eraseIdx_of_lt hlength]
      omega
    next => exact h
  | detach view =>
    simp only [Deck.detach]
    split <;> exact h
  | _ => exact h

structure Equipped (d : Deck) : Prop where
  manager : ∀ {r x}, d.screens.get? r = some x → (d.managers.get? x.manager).isSome
  bar : ∀ {m x}, d.managers.get? m = some x → (d.bars.get? x.bar).isSome
  rows : ∀ {g x}, d.grids.get? g = some x → x.rows ≠ []

namespace Equipped

theorem of_screens (h : d.Equipped)
    (hs : ∀ r, (e.screens.get? r).map (·.manager) = (d.screens.get? r).map (·.manager))
    (hm : e.managers = d.managers) (hb : e.bars = d.bars) (hg : e.grids = d.grids) : e.Equipped where
  manager {r x} hx := by
    have hr := hs r
    rw [hx, Option.map_some] at hr
    obtain ⟨y, hy, hyx⟩ := Option.map_eq_some_iff.mp hr.symm
    rw [hm, ← hyx]
    exact h.manager hy
  bar hx := by
    rw [hb]
    exact h.bar (hm ▸ hx)
  rows hx := h.rows (hg ▸ hx)

theorem modifyScreen (h : d.Equipped) (r : Ref .screen) {f : Screen → Screen}
    (hf : ∀ x, (f x).manager = x.manager) : (d.modifyScreen r f).Equipped :=
  h.of_screens (fun q => Store.map_get?_modify d.screens r q hf) rfl rfl rfl

theorem makeGrid (h : d.Equipped) : d.makeGrid.2.Equipped where
  manager := h.manager
  bar := h.bar
  rows hx := by
    rcases Store.get?_add_eq_some hx with hx | ⟨-, rfl⟩
    · exact h.rows hx
    · exact List.cons_ne_nil _ _

theorem modifyGrid (h : d.Equipped) (g : Ref .grid) {f : Grid → Grid} (hf : GridMove f) :
    (d.modifyGrid g f).Equipped where
  manager := h.manager
  bar := h.bar
  rows hx := by
    obtain ⟨y, hy, rfl | rfl⟩ := Store.get?_modify_eq_some hx
    · exact h.rows hy
    · exact hf.rows_ne_nil (h.rows hy)

theorem makeBar (h : d.Equipped) : d.makeBar.2.Equipped where
  manager := h.manager
  bar hx := Store.isSome_get?_add (h.bar hx) {}
  rows := h.rows

theorem makeManager (h : d.Equipped) : d.makeManager.2.Equipped where
  manager hx := Store.isSome_get?_add (h.manager hx) _
  bar hx := by
    rcases Store.get?_add_eq_some hx with hx | ⟨-, rfl⟩
    · exact h.makeBar.bar hx
    · exact Option.isSome_iff_exists.mpr ⟨_, Store.get?_add d.bars {}⟩
  rows := h.rows

theorem modifyManager (h : d.Equipped) (m : Ref .manager) {f : BarManager → BarManager}
    (hf : ∀ {x}, d.managers.get? m = some x → (d.bars.get? (f x).bar).isSome) :
    (d.modifyManager m f).Equipped where
  manager hx := (Store.isSome_get?_modify _ _ _ _).trans (h.manager hx)
  bar {n x} hx := by
    by_cases hn : m = n
    · subst hn
      have hx' := Store.get?_modify_self d.managers m f
      obtain ⟨y, hy, rfl⟩ := Option.map_eq_some_iff.mp (hx'.symm.trans hx)
      exact hf hy
    · exact h.bar ((Store.get?_modify_ne d.managers f hn).symm.trans hx)
  rows := h.rows

theorem modifyBar (h : d.Equipped) (b : Ref .bar) (f : CommandBar → CommandBar) :
    (d.modifyBar b f).Equipped where
  manager := h.manager
  bar hx := (Store.isSome_get?_modify _ _ _ _).trans (h.bar hx)
  rows := h.rows

theorem makeScreen (h : d.Equipped) (handle : Handle) : (d.makeScreen handle).2.Equipped := by
  obtain ⟨x, hx, hs⟩ := screens_makeScreen_parts handle d
  have hnew : x.manager = (d.managers.add { bar := d.makeBar.1 }).1 := congrArg Prod.snd hx
  have hm : (d.makeScreen handle).2.managers = d.makeManager.2.managers := rfl
  have hb : (d.makeScreen handle).2.bars = d.makeManager.2.bars := rfl
  have hg : (d.makeScreen handle).2.grids = d.makeGrid.2.grids := rfl
  constructor
  · intro r y hy
    rw [hs] at hy
    rw [hm]
    rcases Store.get?_add_eq_some hy with hy | ⟨-, rfl⟩
    · exact h.makeManager.manager hy
    · rw [hnew]
      exact Option.isSome_iff_exists.mpr ⟨_, Store.get?_add d.managers _⟩
  · rw [hm, hb]
    exact h.makeManager.bar
  · rw [hg]
    exact h.makeGrid.rows

/-- Managers and bars are never lost, and grids keep a row. -/
theorem move (h : d.Equipped) (hm : Move d v e) : e.Equipped := by
  cases hm with
  | grid g hf => exact h.modifyGrid g hf
  | setVisible m value =>
    exact (h.modifyManager m (f := fun x => { x with visible := value }) h.bar).modifyBar _ _
  | register m item times => exact h.modifyManager m h.bar
  | resetManager m =>
    refine h.makeBar.modifyManager m fun _ => ?_
    exact Option.isSome_iff_exists.mpr ⟨_, Store.get?_add d.bars {}⟩
  | title r title => exact h.modifyScreen r fun _ => rfl
  | parent r p => exact h.modifyScreen r fun _ => rfl
  | dispose r =>
    rw [release_eq]
    exact of_screens (d := { d with orientation := _ }) h
      (fun q => Store.map_get?_modify d.screens r q fun _ => rfl) rfl rfl rfl
  | bury r => exact h.of_screens (fun q => Store.map_get?_modify d.screens r q fun _ => rfl) rfl rfl rfl
  | release x =>
    rw [release_eq]
    exact h.of_screens (fun _ => rfl) rfl rfl rfl
  | makeGrid => exact h.makeGrid
  | makeBar => exact h.makeBar
  | makeManager => exact h.makeManager
  | makeScreen handle => exact h.makeScreen handle
  | makeWidget handle sharing => cases sharing <;> exact h.of_screens (fun _ => rfl) rfl rfl rfl
  | _ => exact h.of_screens (fun _ => rfl) rfl rfl rfl

theorem history (h : d.Equipped) (hh : History d es e) : e.Equipped := by
  induction hh with
  | start => exact h
  | move _ hm ih => exact ih.move hm

end Equipped

theorem equipped_start {setup : Setup} {start : Scene Deck} (h : setup.start = .ok start) :
    start.state.Equipped := by
  obtain ⟨settings, -, rfl⟩ := Session.start_eq_ok h
  dsimp only
  unfold Session.Setup.deck
  cases setup.withPage <;> exact ⟨nofun, nofun, nofun⟩

/-! Calls that set the bar. -/

/-- A call by which the bar of a screen comes to show or to hide. -/
inductive BarCall where
  | set (value : Bool)
  | enable

namespace BarCall

variable {c : BarCall} {p : Option Parent}

def value : BarCall → Bool
  | set value => value
  | enable => true

def make (r : Ref .screen) : BarCall → Do Unit
  | set value => setBarVisible r value
  | enable => enableBar r

/-- Makes the call so many times, as long as it succeeds. -/
def makeTimes (c : BarCall) (r : Ref .screen) : Nat → Do Unit
  | 0 => pure ()
  | n + 1 => do
    c.make r
    c.makeTimes r n

def Begins (s : Scene Deck) : BarCall → Prop
  | set _ => True
  | enable => s.context.Serves

instance (s : Scene Deck) : (c : BarCall) → Decidable (c.Begins s)
  | set _ => inferInstanceAs (Decidable True)
  | enable => inferInstanceAs (Decidable s.context.Serves)

def prepare (r : Ref .screen) (d : Deck) : BarCall → Deck
  | set _ => d
  | enable => d.modifyGrid (d.screens.get r).grid fun g => (g.reserveRow d.settings.barExtent).2

def Prepared (r : Ref .screen) (d : Deck) : BarCall → Prop
  | set _ => True
  | enable => ∀ g, d.grids.get? (d.screens.get r).grid = some g → g.hasReservedRow = true

theorem equipped_prepare (hd : d.Equipped) (r : Ref .screen) (c : BarCall) :
    (c.prepare r d).Equipped := by
  cases c with
  | set value => exact hd
  | enable => exact hd.modifyGrid _ (.reserve _)

theorem prepared_prepare (hd : d.Equipped) (r : Ref .screen) (c : BarCall) :
    c.Prepared r (c.prepare r d) := by
  cases c with
  | set value => trivial
  | enable =>
    intro g hg
    have hself := Store.get?_modify_self d.grids (d.screens.get r).grid fun g =>
      (g.reserveRow d.settings.barExtent).2
    obtain ⟨g', hg', rfl⟩ := Option.map_eq_some_iff.mp (hself.symm.trans hg)
    exact Grid.hasReservedRow_reserveRow (hd.rows hg') _

theorem Prepared.congr (h : c.Prepared r d) (hg : e.grids = d.grids) (hs : e.screens = d.screens) :
    c.Prepared r e := by
  cases c with
  | set value => trivial
  | enable =>
    intro g hget
    rw [hg, hs] at hget
    exact h g hget

theorem Prepared.prepare_eq (h : c.Prepared r d) : c.prepare r d = d := by
  cases c with
  | set value => rfl
  | enable =>
    have hsame : ∀ g, d.grids.get? (d.screens.get r).grid = some g →
        (g.reserveRow d.settings.barExtent).2 = g := by
      intro g hg
      rw [Grid.reserveRow, if_pos (h g hg)]
    rw [prepare, modifyGrid, Store.modify_eq_self hsame]

/-- A call that begins comes down to a turn of the flag. -/
theorem make_eq_setBarVisible (hb : c.Begins s) (hp : parent r s = (.ok p, s)) :
    ∃ u, c.make r s = setBarVisible r c.value u ∧ u.state = c.prepare r s.state ∧ c.Begins u := by
  cases c with
  | set value => exact ⟨s, rfl, rfl, trivial⟩
  | enable =>
    have hs : s.context.Serves := hb
    let g := (s.state.screens.get r).grid
    have hgrids : s.state.modifyGrid g (fun _ =>
        ((s.state.grids.get g).reserveRow s.state.settings.barExtent).2) = enable.prepare r s.state := by
      rw [prepare, modifyGrid, modifyGrid, Store.modify_congr fun a ha => by rw [Store.get_of_get? ha]]
    have hrow : Act.runSync (reserve g) s =
        (.ok ((s.state.grids.get g).reserveRow s.state.settings.barExtent).1, { s with
          context := s.context.outside s.context.inside, state := enable.prepare r s.state }) := by
      rw [Act.runSync_apply_of_serves hs, Act.contained_apply, reserve_apply, ← hgrids]
    rw [make, enableBar_apply, hp]
    dsimp only
    rw [Act.bind_apply_ok hrow]
    split
    · exact ⟨_, rfl, rfl, hs.outside_inside⟩
    · exact ⟨_, rfl, rfl, hs.outside_inside⟩

theorem make_of_not_begins (hb : ¬ c.Begins s) (hp : parent r s = (.ok p, s)) :
    (c.make r s).1 = .error s.context.refusal.1 ∧ (c.make r s).2.state = s.state := by
  cases c with
  | set value => exact absurd trivial hb
  | enable =>
    have hs : ¬ s.context.Serves := hb
    rw [make, enableBar_apply, hp]
    dsimp only
    rw [Act.bind_apply, Act.runSync_apply_of_not_serves _ hs]
    exact ⟨rfl, rfl⟩

end BarCall

/-- A call that finds the bar as it should be succeeds and tells nobody, however often it is made. -/
theorem BarCall.makeTimes_of_current {c : BarCall} (n : Nat) (hb : c.Begins s) (hk : HeldBy k r s.state)
    (hready : c.Prepared r s.state) (hv : s.state.barVisible r = c.value) :
    (c.makeTimes r n s).1 = .ok () ∧ (c.makeTimes r n s).2.state = s.state := by
  induction n generalizing s with
  | zero => exact ⟨rfl, rfl⟩
  | succ n ih =>
    obtain ⟨u, hmake, hu, hbu⟩ := make_eq_setBarVisible hb hk.parent_apply
    rw [hready.prepare_eq] at hu
    have hdone : c.make r s = (.ok (), u) := by
      rw [hmake]
      exact setBarVisible_apply_of_current (HeldBy.parent_apply (hu ▸ hk)) (hu ▸ hv)
    rw [makeTimes, Act.bind_apply_ok hdone, ← hu]
    exact ih hbu (hu ▸ hk) (hu ▸ hready) (hu ▸ hv)

/-! A container that refuses. -/

def refused : Abort := .failed (.invalidState .containerRefused)

/-- Whether the bar of the screen itself shows. -/
def barShows (d : Deck) (r : Ref .screen) : Bool :=
  (d.bars.get (d.managers.get (d.screens.get r).manager).bar).visible

theorem barVisible_setBar (hm : (d.managers.get? (d.screens.get r).manager).isSome) (value : Bool) :
    (d.setBar r value).barVisible r = value := by
  obtain ⟨m, hm⟩ := Option.isSome_iff_exists.mp hm
  have hmanager : (d.managers.modify (d.screens.get r).manager fun y => { y with visible := value }).get
      (d.screens.get r).manager = { m with visible := value } := by
    rw [Store.get, Store.get?_modify_self, hm]
    rfl
  simp only [barVisible, setBar, modifyManager, modifyBar, hmanager]

theorem bar_setBar {x : Screen} (hd : d.Equipped) (hx : d.screens.get? r = some x) (value : Bool) :
    (d.setBar r value).barVisible r = value ∧ (d.setBar r value).barShows r = value := by
  have hthere : (d.managers.get? x.manager).isSome := hd.manager hx
  obtain ⟨m, hm⟩ := Option.isSome_iff_exists.mp hthere
  obtain ⟨b, hb⟩ := Option.isSome_iff_exists.mp (hd.bar hm)
  have hsame : ((d.managers.modify x.manager fun y => { y with visible := value }).get x.manager).bar =
      (d.managers.get x.manager).bar := Store.apply_get_modify (p := BarManager.bar) _ _ _ fun _ => rfl
  have hbar : (d.bars.modify m.bar fun y => { y with visible := value }).get m.bar =
      { b with visible := value } := by
    rw [Store.get, Store.get?_modify_self, hb]
    rfl
  refine ⟨barVisible_setBar (Store.get_of_get? hx ▸ hthere) value, ?_⟩
  simp only [barShows, setBar, modifyManager, modifyBar, Store.get_of_get? hx, Store.get_of_get? hm,
    hsame.trans (congrArg _ (Store.get_of_get? hm)), hbar]

/-- Grids and screens stay as they are. -/
theorem tell_setBar (k : Ref .container) (r : Ref .screen) (value : Bool) (d : Deck) :
    ((d.setBar r value).tell k r).grids = d.grids ∧
      ((d.setBar r value).tell k r).screens = d.screens := ⟨rfl, rfl⟩

theorem setBarVisible_of_refusing {value : Bool} (hk : HeldBy k r s.state)
    (hmode : (s.state.containers.get k).mode = .refuse) (hv : s.state.barVisible r ≠ value) :
    setBarVisible r value s = (.error refused, { s with
      state := (s.state.setBar r value).tell k r
      notices := s.notices ++ [.barVisibilityChanged] }) := by
  rw [setBarVisible, setBarVisibleWithin_of_turn hk hv, hmode]
  rfl

namespace BarCall

variable {c : BarCall}

/-- A call is refused exactly when it would change the flag, and then leaves the flag and the bar
changed. -/
theorem make_refused (hk : HeldBy k r s.state)
    (hmode : (s.state.containers.get k).mode = .refuse) :
    ((c.make r s).1 = .error refused ↔ c.Begins s ∧ s.state.barVisible r ≠ c.value) ∧
      (c.Begins s → s.state.barVisible r ≠ c.value → c.Begins (c.make r s).2 ∧
        (c.make r s).2.state = ((c.prepare r s.state).setBar r c.value).tell k r) := by
  by_cases hb : c.Begins s
  · obtain ⟨u, hmake, hu, hbu⟩ := make_eq_setBarVisible hb hk.parent_apply
    have hsame : HeldBy k r u.state ∧ (u.state.containers.get k).mode = .refuse ∧
        u.state.barVisible r = s.state.barVisible r := by
      rw [hu]
      cases c <;> exact ⟨⟨hk.parent, hk.alive⟩, hmode, rfl⟩
    obtain ⟨hku, hmodeu, hvu⟩ := hsame
    by_cases hv : s.state.barVisible r = c.value
    · have hdone := setBarVisible_apply_of_current hku.parent_apply (hvu.trans hv)
      rw [hmake, hdone]
      exact ⟨⟨nofun, fun h => absurd hv h.2⟩, fun _ h => absurd hv h⟩
    · have hrefused := setBarVisible_of_refusing hku hmodeu fun h => hv (hvu.symm.trans h)
      rw [hmake, hrefused, hu]
      refine ⟨⟨fun _ => ⟨hb, hv⟩, fun _ => rfl⟩, fun _ _ => ⟨?_, rfl⟩⟩
      cases c <;> exact hbu
  · obtain ⟨hfst, -⟩ := make_of_not_begins hb hk.parent_apply
    refine ⟨⟨fun h => ?_, fun h => absurd h.1 hb⟩, fun h => absurd h hb⟩
    rw [hfst, Context.refusal] at h
    split at h <;> cases h

end BarCall
end Deck

namespace Session

open Deck

variable {setup : Setup} {start s : Scene Deck} {es : List Event} {r : Ref .screen} {x : Screen}
  {k : Ref .container}

/-- A container that refuses is told of a change when the change is made already. When the same call is
made again, however often, and whatever the container is like by then, the call succeeds and the
container is not told. -/
theorem refused_change_stands (hs : setup.start = .ok start) (h : History start.state es s.state)
    (hx : s.state.screens.get? r = some x) (hk : HeldBy k r s.state)
    (hmode : (s.state.containers.get k).mode = .refuse) (c : BarCall) :
    let t := (c.make r s).2
    ((c.make r s).1 = .error refused ↔ c.Begins s ∧ s.state.barVisible r ≠ c.value) ∧
      ((c.make r s).1 = .error refused →
        t.state.barVisible r = c.value ∧ t.state.barShows r = c.value ∧
          t.state.toggles =
            s.state.toggles ++ [⟨(s.state.containers.get k).handle, x.handle, c.value⟩] ∧
          ∀ containers n, (containers.get k).alive = true →
            let u : Scene Deck := { t with state := { t.state with containers } }
            (c.makeTimes r n u).1 = .ok () ∧ (c.makeTimes r n u).2.state = u.state) := by
  intro t
  have hd : s.state.Equipped := (equipped_start hs).history h
  obtain ⟨hiff, hleaves⟩ := BarCall.make_refused (c := c) hk hmode
  refine ⟨hiff, fun he => ?_⟩
  obtain ⟨hb, hv⟩ := hiff.mp he
  let d := c.prepare r s.state
  obtain ⟨hbt, ht⟩ : c.Begins t ∧ t.state = (d.setBar r c.value).tell k r := hleaves hb hv
  -- From here on it does not matter how the call was made.
  clear_value t
  have hscreens : d.screens = s.state.screens := by cases c <;> rfl
  have hcontainers : d.containers = s.state.containers := by cases c <;> rfl
  have htoggles : d.toggles = s.state.toggles := by cases c <;> rfl
  obtain ⟨hflag, hbar⟩ :=
    bar_setBar (BarCall.equipped_prepare hd r c) (hscreens.symm ▸ hx) c.value
  have hflag : t.state.barVisible r = c.value := ht ▸ hflag
  have hbar : t.state.barShows r = c.value := ht ▸ hbar
  obtain ⟨hgrids, hsame⟩ := tell_setBar k r c.value d
  rw [← ht] at hgrids hsame
  have hready : c.Prepared r t.state := (BarCall.prepared_prepare hd r c).congr hgrids hsame
  refine ⟨hflag, hbar, ?_, fun containers n halive => ?_⟩
  · have htold : t.state.toggles = d.toggles ++ [⟨(d.containers.get k).handle,
        (d.screens.get r).handle, t.state.barVisible r⟩] := by rw [ht]; rfl
    rw [htold, hflag, htoggles, hcontainers, hscreens, Store.get_of_get? hx]
  · have hparent : (t.state.screens.get r).parent = some (.container k) := by
      rw [hsame, hscreens]
      exact hk.parent
    intro u
    have hbu : c.Begins u := by cases c <;> exact hbt
    exact BarCall.makeTimes_of_current n hbu ⟨hparent, halive⟩ (hready.congr rfl rfl) hflag

def refusingParent : Scene Deck :=
  let d := (makeScreen ⟨1⟩ { newSession.state with
    containers := (newSession.state.containers.add { handle := ⟨9⟩, mode := .refuse }).2 }).2
  { newSession with state := d.modifyScreen ⟨0⟩ fun x => { x with parent := some (.container ⟨0⟩) } }

theorem history_refusingParent : History newSession.state [] refusingParent.state :=
  ((History.start.move (.makeContainer { handle := ⟨9⟩, mode := .refuse })).move (.makeScreen ⟨1⟩)).move
    (.parent ⟨0⟩ (some (.container ⟨0⟩)))

/-- The row is reserved and the bar shows, and the container heard of it once. -/
theorem refused_enable_stands :
    let t := (enableBar ⟨0⟩ refusingParent).2
    History newSession.state [] refusingParent.state ∧ HeldBy ⟨0⟩ ⟨0⟩ refusingParent.state ∧
      (enableBar ⟨0⟩ refusingParent).1 = .error refused ∧ t.state.barShows ⟨0⟩ = true ∧
      t.state.toggles = [⟨⟨9⟩, ⟨1⟩, true⟩] ∧
      ((BarCall.enable.makeTimes ⟨0⟩ 2 t).1 = .ok () ∧
        (BarCall.enable.makeTimes ⟨0⟩ 2 t).2.state = t.state) := by
  intro t
  have hk : HeldBy ⟨0⟩ ⟨0⟩ refusingParent.state := ⟨rfl, rfl⟩
  obtain ⟨hiff, hstands⟩ :=
    refused_change_stands start_newSession history_refusingParent rfl hk rfl .enable
  have he := hiff.mpr ⟨by decide, by decide⟩
  obtain ⟨-, hbar, htoggles, hagain⟩ := hstands he
  exact ⟨history_refusingParent, hk, he, hbar, htoggles, hagain t.state.containers 2 rfl⟩

/-- The call fails, with the flag and the bar changed. Then it succeeds, and the container was told of
the change only when it refused it. -/
theorem refused_change_is_kept :
    let s := refusingParent
    let t := (setBarVisible ⟨0⟩ true s).2
    let u := (setBarVisible ⟨0⟩ true t).2
    (setBarVisible ⟨0⟩ true s).1 = .error refused ∧
      s.state.barVisible ⟨0⟩ = false ∧ s.state.barShows ⟨0⟩ = false ∧
      t.state.barVisible ⟨0⟩ = true ∧ t.state.barShows ⟨0⟩ = true ∧
      (setBarVisible ⟨0⟩ true t).1 = .ok () ∧
      t.state.toggles = [⟨⟨9⟩, ⟨1⟩, true⟩] ∧ u.state.toggles = [⟨⟨9⟩, ⟨1⟩, true⟩] :=
  ⟨rfl, rfl, rfl, rfl, rfl, rfl, rfl, rfl⟩

end Session
end ScreenDeck
