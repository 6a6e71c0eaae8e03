import ScreenDeck.Proofs.BarNotifications
import ScreenDeck.Proofs.BarOwners

/-! The current bars of screens. Wherever a session has come to, also while a container is being told, a
screen has a bar that no other screen has and that shows what the screen says. Shows and removed menus put
this bar on the page, and no other. -/

namespace ScreenDeck

namespace Deck

open Act (Keeps OnState Composed)

variable {d e f : Deck} {s : Scene Deck} {r q : Ref .screen} {b c : Ref .bar} {value : Bool}

def currentBar (r : Ref .screen) (d : Deck) : Option (Ref .bar) :=
  (d.screens.get? r).bind fun x => (d.managers.get? x.manager).map (·.bar)

theorem currentBar_eq_some : d.currentBar r = some b ↔
    ∃ x m, d.screens.get? r = some x ∧ d.managers.get? x.manager = some m ∧ m.bar = b := by
  simp only [currentBar, Option.bind_eq_some_iff, Option.map_eq_some_iff]
  constructor
  · rintro ⟨x, hx, m, hm, hb⟩
    exact ⟨x, m, hx, hm, hb⟩
  · rintro ⟨x, m, hx, hm, hb⟩
    exact ⟨x, hx, m, hm, hb⟩

structure Wears (r : Ref .screen) (b : Ref .bar) (value : Bool) (d : Deck) : Prop where
  current : d.currentBar r = some b
  flag : d.barVisible r = value
  bar : d.bars.get? b = some ⟨value⟩

theorem get_manager (h : d.currentBar r = some b) :
    ∃ m, d.managers.get? (d.screens.get r).manager = some m ∧ m.bar = b ∧ m.visible = d.barVisible r := by
  obtain ⟨x, m, hx, hm, hb⟩ := currentBar_eq_some.mp h
  rw [barVisible, Store.get_of_get? hx, Store.get_of_get? hm]
  exact ⟨m, hm, hb, rfl⟩

theorem isSome_manager (h : (d.currentBar r).isSome) :
    (d.managers.get? (d.screens.get r).manager).isSome := by
  obtain ⟨b, hb⟩ := Option.isSome_iff_exists.mp h
  obtain ⟨m, hm, -⟩ := get_manager hb
  exact Option.isSome_iff_exists.mpr ⟨m, hm⟩

theorem visibleBar_eq (h : d.currentBar r = some b) :
    d.visibleBar r = if d.barVisible r then some b else none := by
  obtain ⟨m, hm, hb, hv⟩ := get_manager h
  simp only [visibleBar, Store.get_of_get? hm, hb, hv]

namespace Coherent

theorem wears (hd : d.Coherent) (h : d.currentBar r = some b) : Wears r b (d.barVisible r) d := by
  obtain ⟨m, hm, rfl, hv⟩ := get_manager h
  exact ⟨h, rfl, hv ▸ hd.shows hm⟩

theorem isSome_currentBar (hd : d.Coherent) {x : Screen} (hx : d.screens.get? r = some x) :
    (d.currentBar r).isSome := by
  obtain ⟨m, hm⟩ := Option.isSome_iff_exists.mp (hd.owned.there hx)
  exact Option.isSome_iff_exists.mpr ⟨m.bar, currentBar_eq_some.mpr ⟨x, m, hx, hm, rfl⟩⟩

theorem currentBar_inj (hd : d.Coherent) (h : d.currentBar r = some b) (h' : d.currentBar q = some b) :
    r = q := by
  obtain ⟨x, m, hx, hm, rfl⟩ := currentBar_eq_some.mp h
  obtain ⟨y, n, hy, hn, hb⟩ := currentBar_eq_some.mp h'
  exact hd.owned.apart hx hy (hd.apart hm hn hb.symm)

end Coherent

theorem Discarded.not_current (h : Discarded b d) (q : Ref .screen) : d.currentBar q ≠ some b := by
  intro hq
  obtain ⟨x, m, -, hm, hb⟩ := currentBar_eq_some.mp hq
  exact h.free hm hb

namespace SameBars

theorem currentBar (h : SameBars d e) : e.currentBar r = d.currentBar r := by
  have hmanager {m} : (e.managers.get? m).map (·.bar) = (d.managers.get? m).map (·.bar) := by
    have hlooks := congrArg (Option.map Prod.fst) (h.looks m)
    rwa [Option.map_map, Option.map_map] at hlooks
  have hscreen := h.managed r
  rw [Deck.currentBar, Deck.currentBar]
  cases hd : d.screens.get? r <;> cases he : e.screens.get? r
  all_goals simp_all

theorem barVisible (h : SameBars d e) : e.barVisible r = d.barVisible r := by
  have hmanager := congrArg (·.getD (default : Screen).manager) (h.managed r)
  have hlook := congrArg (·.getD (default : BarManager).look) (h.looks (d.screens.get r).manager)
  simp only [Option.getD_map] at hmanager hlook
  have hmanager : (e.screens.get r).manager = (d.screens.get r).manager := hmanager
  rw [Deck.barVisible, hmanager]
  exact congrArg Prod.snd hlook

theorem wears (h : SameBars d e) (hw : Wears r b value d) : Wears r b value e where
  current := h.currentBar.trans hw.current
  flag := h.barVisible.trans hw.flag
  bar := h.bars hw.bar

end SameBars

theorem currentBar_setBar : (d.setBar r value).currentBar q = d.currentBar q := by
  have hmanager (m : Ref .manager) : ((d.setBar r value).managers.get? m).map (·.bar) =
      (d.managers.get? m).map (·.bar) := Store.map_get?_modify d.managers _ m fun _ => rfl
  simp only [currentBar, hmanager]
  rfl

/-- The old bar is no longer that of a screen, and the new one does not show. -/
theorem wears_resetBar (h : (d.currentBar r).isSome) : Wears r d.makeBar.1 false (d.resetBar r) := by
  obtain ⟨b, hb⟩ := Option.isSome_iff_exists.mp h
  obtain ⟨x, m, hx, hm, -⟩ := currentBar_eq_some.mp hb
  have hreset : (d.resetBar r).managers.get? x.manager = some { bar := d.makeBar.1 } := by
    rw [resetBar, Store.get_of_get? hx]
    exact (Store.get?_modify_self d.managers _ _).trans (by rw [hm]; rfl)
  have hscreen : (d.resetBar r).screens.get? r = some x := hx
  refine ⟨currentBar_eq_some.mpr ⟨x, _, hscreen, hreset, rfl⟩, ?_, Store.get?_add d.bars {}⟩
  rw [barVisible, Store.get_of_get? hscreen, Store.get_of_get? hreset]

theorem minds_resetBar (r : Ref .screen) (d : Deck) : Minds d (d.resetBar r) := .resetManager _ d

theorem minds_setBar (h : (d.currentBar r).isSome) (value : Bool) : Minds d (d.setBar r value) :=
  .turn (isSome_manager h) value

theorem sameBars_attachBar (b : Ref .bar) (d : Deck) : SameBars d (d.attachBar (some b)) := .of_eq rfl

/-- The bar that the screen had before has no manager any more, and looks as it did. -/
theorem discarded_resetBar (hd : d.Coherent) (h : d.currentBar r = some b) :
    Discarded b (d.resetBar r) ∧ (d.resetBar r).bars.get? b = d.bars.get? b := by
  obtain ⟨x, m, hx, hm, rfl⟩ := currentBar_eq_some.mp h
  have hmade : (d.bars.get? m.bar).isSome := Option.isSome_iff_exists.mpr ⟨_, hd.shows hm⟩
  have hnew : m.bar ≠ d.makeBar.1 := hd.bar_ne_new hm
  refine ⟨⟨Store.isSome_get?_add hmade _, fun {n y} hy => ?_⟩, Store.get?_add_ne d.bars {} hnew⟩
  rw [resetBar, Store.get_of_get? hx] at hy
  obtain ⟨-, -, -, rfl⟩ | ⟨hn, hy⟩ := Store.get?_modify_cases hy
  · exact hnew.symm
  · exact fun hb => hn (hd.apart hm hy hb.symm)

/-! Bars on the page. -/

/-- What is done about the bars of a screen and of the page. The log has the bars that were put on the page.
At that moment each of them is that of the screen, and shows as the log says. -/
inductive Dressing (r : Ref .screen) (d : Deck) : List (Ref .bar × Bool) → Deck → Prop
  | start : Dressing r d [] d
  | aside {log : List (Ref .bar × Bool)} {e f : Deck} (h : Dressing r d log e) (hb : SameBars e f)
      (hp : f.attachedBar = e.attachedBar) : Dressing r d log f
  | turn {log : List (Ref .bar × Bool)} {e : Deck} (h : Dressing r d log e) (value : Bool) :
      Dressing r d log (e.setBar r value)
  | reset {log : List (Ref .bar × Bool)} {e : Deck} (h : Dressing r d log e) : Dressing r d log (e.resetBar r)
  | attach {log : List (Ref .bar × Bool)} {e : Deck} {b : Ref .bar} {value : Bool} (h : Dressing r d log e)
      (hp : e.page.isSome) (hw : Wears r b value e) :
      Dressing r d (log ++ [(b, value)]) (e.attachBar (some b))

namespace Dressing

variable {log log' : List (Ref .bar × Bool)}

theorem trans (h : Dressing r d log e) (h' : Dressing r e log' f) : Dressing r d (log ++ log') f := by
  induction h' with
  | start => rwa [List.append_nil]
  | aside _ hb hp ih => exact ih.aside hb hp
  | turn _ value ih => exact ih.turn value
  | reset _ ih => exact ih.reset
  | attach _ hp hw ih =>
    rw [← List.append_assoc]
    exact ih.attach hp hw

/-- As long as the page is only dressed with bars of the screen, all bars stay in order. -/
theorem minds (h : Dressing r d log e) (hr : (d.currentBar r).isSome) :
    Minds d e ∧ (e.currentBar r).isSome := by
  induction h with
  | start => exact ⟨.of_eq rfl, hr⟩
  | aside _ hb _ ih => exact ⟨ih.1.trans hb.minds, hb.currentBar ▸ ih.2⟩
  | turn _ value ih =>
    refine ⟨ih.1.trans (minds_setBar ih.2 value), ?_⟩
    rw [currentBar_setBar]
    exact ih.2
  | reset _ ih =>
    exact ⟨ih.1.trans (minds_resetBar r _), Option.isSome_iff_exists.mpr ⟨_, (wears_resetBar ih.2).current⟩⟩
  | attach _ _ _ ih =>
    refine ⟨ih.1.trans (sameBars_attachBar _ _).minds, ?_⟩
    rw [(sameBars_attachBar _ _).currentBar]
    exact ih.2

/-- The page has the bar that was put on it last, and the same as before if there was none. -/
theorem attachedBar (h : Dressing r d log e) :
    e.attachedBar = (log.getLast?.map (·.1)).or d.attachedBar := by
  induction h with
  | start => rfl
  | aside _ _ hp ih => exact hp.trans ih
  | turn _ value ih => exact ih
  | reset _ ih => exact ih
  | attach _ hp _ _ =>
    rw [List.getLast?_concat]
    exact attachedBar_attachBar hp _

end Dressing

/-- The page got no bars but those of the screen, each shown or hidden as `P` says. It has the last of
them. -/
def Dressed (r : Ref .screen) (P : Bool → Prop) (d e : Deck) : Prop :=
  ∃ log, Dressing r d log e ∧ (∀ y ∈ log, P y.2) ∧ e.attachedBar = (log.getLast?.map (·.1)).or d.attachedBar

/-- If bars are in order, the page gets no bars but those of the screen. -/
def Dresses (r : Ref .screen) (P : Bool → Prop) (d e : Deck) : Prop :=
  d.Coherent → (d.currentBar r).isSome → ∃ log, Dressing r d log e ∧ ∀ y ∈ log, P y.2

namespace Dresses

variable {P Q : Bool → Prop}

theorem of_dressing (h : Dressing r d [] e) : Dresses r P d e := fun _ _ => ⟨[], h, nofun⟩

theorem of_eq (hw : e.wearing = d.wearing) (hp : e.attachedBar = d.attachedBar) : Dresses r P d e :=
  of_dressing (.aside .start (.of_eq hw) hp)

theorem trans (h : Dresses r P d e) (h' : Dresses r P e f) : Dresses r P d f := by
  intro hd hr
  obtain ⟨log, hlog, hP⟩ := h hd hr
  obtain ⟨hminds, hre⟩ := hlog.minds hr
  obtain ⟨log', hlog', hP'⟩ := h' (hminds.coherent hd) hre
  refine ⟨log ++ log', hlog.trans hlog', fun y hy => ?_⟩
  exact (List.mem_append.mp hy).elim (hP y) (hP' y)

theorem mono (h : Dresses r P d e) (hPQ : ∀ value, P value → Q value) : Dresses r Q d e := by
  intro hd hr
  obtain ⟨log, hlog, hP⟩ := h hd hr
  exact ⟨log, hlog, fun y hy => hPQ _ (hP y hy)⟩

end Dresses

theorem Dresses.dressed {P : Bool → Prop} (h : Dresses r P d e) (hd : d.Coherent)
    (hr : (d.currentBar r).isSome) : Dressed r P d e := by
  obtain ⟨log, hlog, hP⟩ := h hd hr
  exact ⟨log, hlog, hP, hlog.attachedBar⟩

instance (r : Ref .screen) (P : Bool → Prop) : Act.Steady (OnState (Dresses r P)) :=
  Act.steady_onState (fun _ => .of_dressing .start) Dresses.trans

def Bare (d e : Deck) : Prop := SameBars d e ∧ e.attachedBar = d.attachedBar

theorem Bare.dressing (h : Bare d e) : Dressing r d [] e := .aside .start h.1 h.2

theorem Bare.of_eq (hw : e.wearing = d.wearing) (hp : e.attachedBar = d.attachedBar) : Bare d e :=
  ⟨.of_eq hw, hp⟩

instance : Act.Steady (OnState Bare) :=
  Act.steady_onState (fun _ => .of_eq rfl rfl) fun h h' => ⟨h.1.trans h'.1, h'.2.trans h.2⟩

theorem composed_setPageContent_bare (g : Ref .grid) : Composed Bare (setPageContent g) :=
  composed_setPageContent_of g fun hp => .of_eq rfl (by simp [attachedBar, hp])

/-- A bar that is to be shown is that of the screen. What comes after it in the same piece of work is not
about bars. -/
theorem dresses_shown {a : Do Unit} (ha : Keeps (OnState Bare) a) (s : Scene Deck) :
    Dresses r (· = true) s.state
      (Act.runSync (showBar (s.state.visibleBar r) >>= fun _ => a) s).2.state := by
  by_cases hs : s.context.Serves
  · intro hd hr
    obtain ⟨b, hb⟩ := Option.isSome_iff_exists.mp hr
    rw [Act.runSync_state hs, Act.bind_apply, showBar_apply]
    by_cases hpass : s.state.visibleBar r = none ∨ (Act.within s).state.Takes .setPageCommandBar
    · rw [if_pos hpass]
      have hbare := ha { Act.within s with state := s.state.attachBar (s.state.visibleBar r) }
      have hshown : ∃ log, Dressing r s.state log (s.state.attachBar (s.state.visibleBar r)) ∧
          ∀ y ∈ log, y.2 = true := by
        rw [visibleBar_eq hb] at hpass ⊢
        by_cases hv : s.state.barVisible r = true
        · have hw := hd.wears hb
          rw [if_pos hv] at hpass ⊢
          rw [hv] at hw
          exact ⟨_, .attach .start (hpass.resolve_left nofun).2 hw, by simp⟩
        · rw [if_neg hv]
          exact ⟨[], .start, nofun⟩
      obtain ⟨log, hlog, hP⟩ := hshown
      exact ⟨log, hlog.aside hbare.1 hbare.2, hP⟩
    · rw [if_neg hpass]
      exact ⟨[], .start, nofun⟩
  · rw [Act.runSync_apply_of_not_serves _ hs]
    exact .of_dressing .start

theorem dresses_showScreen (r : Ref .screen) : Keeps (OnState (Dresses r (· = true))) (showScreen r) := by
  intro s
  let p := (s.state.screens.get r).presenter
  have hrequest : Dresses r (· = true) s.state (s.state.request p) := .of_eq rfl rfl
  have hshown := dresses_shown (r := r) (a := do setPageContent ((← Act.state).presenters.get p).grid)
    (Keeps.state.bind fun _ => (composed_setPageContent_bare _).keeps) { s with state := s.state.request p }
  rw [OnState, showScreen_apply, (Act.noted_alike _ _ s).2, present_apply, (Act.noted_alike _ _ _).2]
  exact hrequest.trans hshown

theorem dresses_showWithTransition (r : Ref .screen) (kind : Int32) :
    Keeps (OnState (Dresses r (· = true))) (showWithTransition r kind) := by
  intro s
  let p := (s.state.screens.get r).presenter
  have hrequest : Dresses r (· = true) s.state (s.state.request p) := .of_eq rfl rfl
  have htransition (engine : Engine) (x : Switch) : Keeps (OnState Bare) (runTransition engine kind x) :=
    (composed_runTransition_of composed_setPageContent_bare engine (fun _ => .of_eq rfl rfl)
      fun _ => .of_eq rfl rfl).keeps
  have hshown := dresses_shown (r := r) (htransition ((s.state.request p).presenters.get p).engine
    (s.state.nextSwitch p)) { s with state := s.state.request p }
  rw [OnState, showWithTransition_apply, (Act.noted_alike _ _ s).2, presentWithTransition_apply,
    (Act.noted_alike _ _ _).2]
  exact hrequest.trans hshown

theorem dresses_removeOptionsMenu (r : Ref .screen) :
    Keeps (OnState (Dresses r (· = false))) (removeOptionsMenu r) := by
  intro s hd hr
  have hreset : Dressing r s.state [] (s.state.resetBar r) := .reset .start
  have hreleased : Dressing r s.state [] ((s.state.resetBar r).releaseRow r) := .aside hreset (.of_eq rfl) rfl
  rw [removeOptionsMenu_state]
  split
  · split
    next ht =>
      have hsame : SameBars (s.state.resetBar r) ((s.state.resetBar r).releaseRow r) := .of_eq rfl
      have hw := hsame.wears (wears_resetBar hr)
      exact ⟨_, .attach hreleased ht.2 hw, by simp⟩
    next => exact ⟨[], hreleased, nofun⟩
  · exact ⟨[], hreset, nofun⟩

/-- What the container of the screen puts on the page when it is told, shown or hidden. -/
def Answering (r : Ref .screen) (d : Deck) (value : Bool) : Prop :=
  ∃ k, (d.screens.get r).parent = some (.container k) ∧
    (d.containers.get k).mode = if value then .shows else .resets

/-- A call on the bar of a screen puts no bar on the page itself. Its container may, when it is told. -/
theorem dresses_make (c : BarCall) (r : Ref .screen) (s : Scene Deck) :
    Dresses r (Answering r s.state) s.state (c.make r s).2.state := by
  have hcallback : CallbackKeeps (OnState (Dresses r (Answering r s.state))) r s.state := by
    intro k hk
    refine ⟨fun hmode t => ?_, fun hmode t => ?_⟩
    · refine (dresses_showScreen r t).mono fun value hv => ⟨k, hk, ?_⟩
      rw [hv, hmode]
      rfl
    · refine (dresses_removeOptionsMenu r t).mono fun value hv => ⟨k, hk, ?_⟩
      rw [hv, hmode]
      rfl
  have hflag (value : Bool) (t : Scene Deck) : OnState (Dresses r (Answering r s.state)) t
      (setManagerVisible (t.state.screens.get r).manager value t).2 := by
    rw [setManagerVisible_apply]
    split
    · exact .of_dressing .start
    · exact .of_dressing (.turn .start value)
  have htoggle (x : Toggle) : Keeps (OnState (Dresses r (Answering r s.state)))
      (Act.modifyState fun d : Deck => { d with toggles := d.toggles ++ [x] }) :=
    fun _ => .of_eq rfl rfl
  cases c with
  | set value => exact keeps_setBarVisibleWithin hflag htoggle 3 value hcallback
  | enable =>
    refine keeps_enableBar hflag htoggle (fun g t => ?_) hcallback
    have hreserve : Keeps (OnState Bare) (reserve g) := fun _ => .of_eq rfl rfl
    exact .of_dressing (hreserve.runSync t).dressing

theorem Dresses.minds {P : Bool → Prop} (h : Dresses r P d e) (hd : d.Coherent)
    (hr : (d.currentBar r).isSome) : Minds d e := by
  obtain ⟨log, hlog, -⟩ := h hd hr
  exact (hlog.minds hr).1

/-- The bar that the screen had before is discarded, whether the call succeeds or not. -/
theorem discarded_removeOptionsMenu (hd : s.state.Coherent) (h : s.state.currentBar r = some b) :
    let t := (removeOptionsMenu r s).2
    Discarded b t.state ∧ t.state.bars.get? b = s.state.bars.get? b := by
  obtain ⟨hb, hsame⟩ := discarded_resetBar hd h
  have hreleased : SameBars (s.state.resetBar r) ((s.state.resetBar r).releaseRow r) := .of_eq rfl
  have hafter {e : Deck} (he : SameBars (s.state.resetBar r) e) :
      Discarded b e ∧ e.bars.get? b = s.state.bars.get? b :=
    ⟨he.minds.discarded hb, (he.minds.untouched hb).trans hsame⟩
  dsimp only
  rw [removeOptionsMenu_state]
  split
  · split
    · exact hafter (hreleased.trans (sameBars_attachBar _ _))
    · exact hafter hreleased
  · exact hafter (.refl _)

theorem HeldBy.isSome_currentBar {k : Ref .container} (hk : HeldBy k r d) (hd : d.Coherent) :
    (d.currentBar r).isSome := by
  have hparent := hk.parent
  cases hx : d.screens.get? r with
  | some x => exact hd.isSome_currentBar hx
  | none =>
    rw [Store.get, hx] at hparent
    cases hparent

end Deck

namespace Session

open Deck
open Act (Keeps OnState)

variable {setup : Setup} {start s t : Scene Deck} {d e : Deck}

def Orderly (d e : Deck) : Prop := d.Furnished → d.Coherent → e.Furnished ∧ Minds d e

instance : Act.Steady (OnState Orderly) :=
  Act.steady_onState (fun _ hd _ => ⟨hd, .of_eq rfl⟩) fun h h' hd hc => by
    obtain ⟨he, hde⟩ := h hd hc
    obtain ⟨hf, hef⟩ := h' he (hde.coherent hc)
    exact ⟨hf, hde.trans hef⟩

theorem orderly_of_upholds (h : Upholds d e) (h' : d.Furnished → d.Coherent → Minds d e) : Orderly d e :=
  fun hd hc => ⟨h.furnished hd, h' hd hc⟩

theorem minds_perform {step : Step} (h : ¬ step.Turns) : Keeps (OnState Minds) (perform step) :=
  keeps_perform_of (fun v _ => admits_minds v) (fun _ => inferInstance) (fun _ _ => inferInstance)
    fun ht => absurd ht h

theorem minds_performOnScreen {step : ScreenStep} {r : Ref .screen} (ht : step.Turns) (hc : s.state.Coherent)
    (hr : (s.state.currentBar r).isSome) : Minds s.state (performOnScreen r step s).2.state := by
  cases step with
  | enable =>
    rw [performOnScreen, outcome_snd, done_snd]
    exact (dresses_make .enable r s).minds hc hr
  | visible value =>
    rw [performOnScreen, outcome_snd, done_snd]
    exact (dresses_make (.set value) r s).minds hc hr
  | _ => exact ht.elim

theorem minds_setManagerVisible {m : Ref .manager} (hm : (s.state.managers.get? m).isSome) (value : Bool) :
    Minds s.state (setManagerVisible m value s).2.state := by
  rw [setManagerVisible_apply]
  split
  · exact .of_eq rfl
  · exact .turn hm value

/-- Names are those of managers and screens that are there. -/
theorem orderly_perform (step : Step) : Keeps (OnState Orderly) (perform step) := by
  intro s
  refine orderly_of_upholds (upholds_perform step s) fun hd hc => ?_
  by_cases ht : step.Turns
  · cases step with
    | onScreen name step =>
      rw [perform]
      cases hq : s.state.names.screens.lookup name with
      | none =>
        rw [named_apply_none hq]
        exact .of_eq rfl
      | some r =>
        obtain ⟨x, hx⟩ := Option.isSome_iff_exists.mp (hd.named (Names.mem_of_lookup hq))
        rw [named_apply_some hq]
        exact minds_performOnScreen ht hc (hc.isSome_currentBar hx)
    | onManager name step =>
      rw [perform]
      cases hq : s.state.names.managers.lookup name with
      | none =>
        rw [named_apply_none hq]
        exact .of_eq rfl
      | some m =>
        have hm := hd.managers.held (Names.mem_of_lookup hq)
        rw [named_apply_some hq]
        cases step with
        | visible value =>
          rw [performOnManager, withView_snd, replied_snd]
          exact minds_setManagerVisible hm value
        | _ => exact ht.elim
    | _ => exact ht.elim
  · exact minds_perform ht s

theorem orderly_observe (via : Via) (step : Step) (s : Scene Deck) :
    Orderly s.state (observe via step s).2.state := by
  refine keeps_observe_of (T := OnState Orderly) via (orderly_perform step) (fun reply t => ?_) s
  have hupholds := (composed_look (R := Upholds) step reply).keeps t
  exact orderly_of_upholds hupholds fun _ _ => (composed_look (R := Minds) step reply).keeps t

/-- Where a session comes to. It goes on with any step, also while a container is being told that the bar of
a screen is about to show or to hide. -/
inductive Reached (start : Scene Deck) : Scene Deck → Prop
  | start : Reached start start
  | step {s : Scene Deck} (h : Reached start s) (via : Via) (step : Step) :
      Reached start (observe via step s).2
  | told {s t : Scene Deck} {k : Ref .container} {r : Ref .screen} (h : Reached start s)
      (hk : HeldBy k r s.state) (c : BarCall) (hv : s.state.barVisible r ≠ c.value)
      (ht : t.state = ((c.prepare r s.state).setBar r c.value).tell k r) : Reached start t

/-- By the time the container is told, the flag and the bar agree already. -/
theorem orderly_told {k : Ref .container} {r : Ref .screen} (hk : HeldBy k r d) (c : BarCall) :
    Orderly d (((c.prepare r d).setBar r c.value).tell k r) := by
  have hprepared : Upholds d (c.prepare r d) ∧ SameBars d (c.prepare r d) := by
    cases c with
    | set value => exact ⟨.refl d, .refl d⟩
    | enable => exact ⟨Reshaping.grid (.reserve _) _ d, .of_eq rfl⟩
  have hset : Upholds (c.prepare r d) ((c.prepare r d).setBar r c.value) :=
    (calm_setVisible _ c.value (c.prepare r d)).upholds
  have htold (e : Deck) : Calm e (e.tell k r) ∧ SameBars e (e.tell k r) := ⟨.of_eq rfl, .of_eq rfl⟩
  refine orderly_of_upholds ((hprepared.1.trans hset).trans (htold _).1.upholds) fun _ hc => ?_
  have hr : ((c.prepare r d).currentBar r).isSome := by
    rw [hprepared.2.currentBar]
    exact hk.isSome_currentBar hc
  exact (hprepared.2.minds.trans (minds_setBar hr c.value)).trans (htold _).2.minds

/-- Bars are in order wherever a session comes to, also in the middle of a notification. -/
theorem Reached.orderly (h : Reached start s) : Orderly start.state s.state := by
  induction h with
  | start => exact Act.Steady.refl (R := OnState Orderly) start
  | step _ via step ih =>
    exact Act.Steady.trans (R := OnState Orderly) ih (orderly_observe via step _)
  | told _ hk c _ ht ih =>
    have htold := orderly_told hk c
    rw [← ht] at htold
    exact Act.Steady.trans (R := OnState Orderly) ih htold

theorem coherent_start (h : setup.start = .ok start) : start.state.Coherent := by
  obtain ⟨settings, -, rfl⟩ := start_eq_ok h
  dsimp only
  unfold Setup.deck
  cases setup.withPage <;> exact ⟨nofun, nofun, nofun, nofun, nofun, nofun⟩

def clearedScreen : Scene Deck :=
  let s := (observe .direct (.container "c" ⟨9⟩ .resets) newSession).2
  let t := (observe .direct (.openScreen "a" ⟨1⟩) s).2
  (observe .direct (.onScreen "a" (.parent "c")) t).2

def askedToClear : Scene Deck :=
  { clearedScreen with state := (clearedScreen.state.setBar ⟨0⟩ true).tell ⟨0⟩ ⟨0⟩ }

theorem reached_askedToClear : Reached newSession askedToClear := by
  have hscreen : Reached newSession clearedScreen :=
    ((Reached.start.step .direct (.container "c" ⟨9⟩ .resets)).step .direct (.openScreen "a" ⟨1⟩)).step
      .direct (.onScreen "a" (.parent "c"))
  exact hscreen.told (k := ⟨0⟩) (r := ⟨0⟩) ⟨rfl, rfl⟩ (.set true) (by decide) rfl

end Session
end ScreenDeck
