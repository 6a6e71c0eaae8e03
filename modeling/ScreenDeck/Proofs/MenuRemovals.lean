import ScreenDeck.Proofs.Answers
import ScreenDeck.Proofs.GridRows
import ScreenDeck.Proofs.RefusedNotifications

/-! Removed menus. The manager of a screen starts over before the work begins. In the work the row is
given back, and only then does the host get to see the new bar. So what the host makes of it decides how
the call ends, and nothing else but the bar on the page. -/

namespace ScreenDeck

namespace Deck

open ScreenDeck.Action (Place Fits)
open Act (containment)

variable {d e : Deck} {es : List Event} {v : Option Event} {s : Scene Deck} {r : Ref .screen}
  {x : Screen} {b : Ref .bar}

/-- The manager of the screen has started over, with a new bar. -/
def resetBar (r : Ref .screen) (d : Deck) : Deck :=
  d.makeBar.2.modifyManager (d.screens.get r).manager fun _ => { bar := d.makeBar.1 }

def releaseRow (r : Ref .screen) (d : Deck) : Deck :=
  d.modifyGrid (d.screens.get r).grid fun g => g.releaseReservedRow.2

/-- How the call ends, and what it leaves. -/
theorem removeOptionsMenu_seen (r : Ref .screen) (s : Scene Deck) :
    let d := s.state.resetBar r
    ((removeOptionsMenu r s).1, (removeOptionsMenu r s).2.state) =
      if s.context.Serves then
        if s.state.Takes .setPageCommandBar then
          (.ok (), (d.releaseRow r).attachBar (some s.state.makeBar.1))
        else (containment (.error (s.state.pageRefusal .setPageCommandBar)), d.releaseRow r)
      else (.error s.context.refusal.1, d) := by
  intro d
  let u : Scene Deck := { s with state := d, notices := s.notices ++ [.barReset] }
  let work : Do Unit := do
    Act.modifyState fun d => d.modifyGrid (s.state.screens.get r).grid fun g => g.releaseReservedRow.2
    setPageBar s.state.makeBar.1
  have hrun : removeOptionsMenu r s = (do Act.runSync work; Act.note .optionsMenuRemoved : Do Unit) u := rfl
  rw [hrun, Act.noted_fst, (Act.noted_alike _ _ _).2]
  by_cases hs : u.context.Serves
  · have hwork : work (Act.within u) =
        showBar (some s.state.makeBar.1) { Act.within u with state := d.releaseRow r } := rfl
    have htakes : (d.releaseRow r).Takes .setPageCommandBar ↔ s.state.Takes .setPageCommandBar := Iff.rfl
    have hrefusal : (d.releaseRow r).pageRefusal .setPageCommandBar =
        s.state.pageRefusal .setPageCommandBar := rfl
    rw [Act.runSync_fst hs, Act.runSync_state hs, hwork, showBar_apply, if_pos (show s.context.Serves from hs)]
    by_cases ht : s.state.Takes .setPageCommandBar
    · simp only [htakes, ht, or_true, if_true]
      rfl
    · simp only [htakes, ht, or_false, if_false, hrefusal, reduceCtorEq]
  · rw [Act.runSync_apply_of_not_serves work hs, if_neg (show ¬ s.context.Serves from hs)]

/-- The manager starts over outside the work. The work gives the row back, and then the page is asked. -/
theorem removeOptionsMenu_state (r : Ref .screen) (s : Scene Deck) :
    (removeOptionsMenu r s).2.state =
      if s.context.Serves then
        if s.state.Takes .setPageCommandBar then
          ((s.state.resetBar r).releaseRow r).attachBar (some s.state.makeBar.1)
        else (s.state.resetBar r).releaseRow r
      else s.state.resetBar r := by
  have hseen := congrArg Prod.snd (removeOptionsMenu_seen r s)
  simpa only [apply_ite Prod.snd] using hseen

/-- A screen has started over with a bar. Nothing has happened to other managers and bars and to what lies
in the grids, and nothing at all to screens and trees, which know the titles, the parents and the
children. -/
structure StartedOver (x : Screen) (b : Ref .bar) (d e : Deck) : Prop where
  manager : e.managers.get? x.manager = some ⟨b, false, ⟨#[], 0⟩⟩
  bar : e.bars.get? b = some ⟨false⟩
  managers : ∀ m, m ≠ x.manager → e.managers.get? m = d.managers.get? m
  bars : ∀ c, c ≠ b → e.bars.get? c = d.bars.get? c
  rows : ∀ g, g ≠ x.grid → e.grids.get? g = d.grids.get? g
  cells : (e.grids.get? x.grid).map (·.cells) = (d.grids.get? x.grid).map (·.cells)
  content : e.shownGrid = d.shownGrid
  others : ∃ bars managers grids page, e = { d with bars, managers, grids, page }

theorem startedOver_resetBar (hd : d.Equipped) (hx : d.screens.get? r = some x) :
    StartedOver x d.makeBar.1 d (d.resetBar r) := by
  have hm : (d.screens.get r).manager = x.manager := by rw [Store.get_of_get? hx]
  obtain ⟨m, hmanager⟩ := Option.isSome_iff_exists.mp (hd.manager hx)
  refine ⟨?_, Store.get?_add d.bars {}, fun n hn => ?_, fun c hc => Store.get?_add_ne d.bars {} hc,
    fun _ _ => rfl, rfl, rfl, _, _, _, _, rfl⟩
  · have hself := Store.get?_modify_self d.managers x.manager fun _ => { bar := d.makeBar.1 }
    rw [hmanager] at hself
    rw [resetBar, hm]
    exact hself
  · rw [resetBar, hm]
    exact Store.get?_modify_ne d.managers _ hn.symm

theorem StartedOver.releaseRow (h : StartedOver x b d e) (hx : e.screens.get? r = some x) :
    StartedOver x b d (e.releaseRow r) := by
  have hg : (e.screens.get r).grid = x.grid := by rw [Store.get_of_get? hx]
  refine ⟨h.manager, h.bar, h.managers, h.bars, fun g hne => ?_, ?_, h.content, ?_⟩
  · rw [Deck.releaseRow, hg]
    exact (Store.get?_modify_ne e.grids _ hne.symm).trans (h.rows g hne)
  · rw [Deck.releaseRow, hg]
    exact (Store.map_get?_modify e.grids _ _ Grid.cells_releaseReservedRow).trans h.cells
  · obtain ⟨bars, managers, grids, page, rfl⟩ := h.others
    exact ⟨bars, managers, _, page, rfl⟩

theorem StartedOver.attachBar (h : StartedOver x b d e) (c : Ref .bar) :
    StartedOver x b d (e.attachBar (some c)) := by
  refine ⟨h.manager, h.bar, h.managers, h.bars, h.rows, h.cells, ?_, ?_⟩
  · exact (shownGrid_attachBar (some c) e).trans h.content
  · obtain ⟨bars, managers, grids, page, rfl⟩ := h.others
    exact ⟨bars, managers, grids, _, rfl⟩

section Fitting

variable {place : Place} (hc : Fits s.context place) (hp : place ≠ .helper)
include hc hp

/-- However the removal ends, the manager has started over. -/
theorem removeOptionsMenu_cases (r : Ref .screen) :
    let result := (removeOptionsMenu r s).1
    let d := (removeOptionsMenu r s).2.state
    (s.context.running = false ∧ result = .error (.failed (.dispatch .stopped)) ∧
      d = s.state.resetBar r) ∨
    (s.context.running = true ∧ s.state.Takes .setPageCommandBar ∧ result = .ok () ∧
      d = ((s.state.resetBar r).releaseRow r).attachBar (some s.state.makeBar.1)) ∨
    (s.context.running = true ∧ ¬ s.state.Takes .setPageCommandBar ∧
      (∃ f, result = .error (.failed f)) ∧ d = (s.state.resetBar r).releaseRow r) := by
  intro result d
  have hseen : (result, d) = _ := removeOptionsMenu_seen r s
  cases hr : s.context.running with
  | false =>
    have hs : ¬ s.context.Serves := fun hs => Bool.false_ne_true (hr.symm.trans hs.1)
    rw [if_neg hs, Context.refusal, if_pos (.inl hr)] at hseen
    obtain ⟨hresult, hd⟩ := Prod.mk.inj hseen
    exact .inl ⟨rfl, hresult, hd⟩
  | true =>
    rw [if_pos (hc.serves hp hr)] at hseen
    by_cases ht : s.state.Takes .setPageCommandBar
    · rw [if_pos ht] at hseen
      obtain ⟨hresult, hd⟩ := Prod.mk.inj hseen
      exact .inr (.inl ⟨rfl, ht, hresult, hd⟩)
    · rw [if_neg ht] at hseen
      obtain ⟨hresult, hd⟩ := Prod.mk.inj hseen
      obtain ⟨f, hf⟩ := containment_pageRefusal Unit s.state .setPageCommandBar
      exact .inr (.inr ⟨rfl, ht, ⟨f, hresult.trans hf⟩, hd⟩)

end Fitting

/-! Bars are never lost. -/

/-- No bar is ever lost, so a new one has never been there. -/
theorem Move.bars (hm : Move d v e) (h : (d.bars.get? b).isSome) : (e.bars.get? b).isSome := by
  cases hm with
  | setVisible m value => exact (Store.isSome_get?_modify d.bars _ _ _).trans h
  | resetManager m => exact Store.isSome_get?_add h _
  | makeBar => exact Store.isSome_get?_add h _
  | makeManager => exact Store.isSome_get?_add h _
  | makeScreen handle => exact Store.isSome_get?_add h _
  | dispose r =>
    rw [release_eq]
    exact h
  | release x =>
    rw [release_eq]
    exact h
  | makeWidget handle sharing => cases sharing <;> exact h
  | _ => exact h

theorem History.bars (h : History d es e) (hb : (d.bars.get? b).isSome) : (e.bars.get? b).isSome := by
  induction h with
  | start => exact hb
  | move _ hm ih => exact hm.bars ih

/-- The bar that a screen has is not the next one to be made. -/
theorem Equipped.bar_ne (hd : d.Equipped) (h : History d es e) (hx : d.screens.get? r = some x) :
    (d.managers.get x.manager).bar ≠ e.makeBar.1 := by
  obtain ⟨m, hm⟩ := Option.isSome_iff_exists.mp (hd.manager hx)
  rw [Store.get_of_get? hm]
  exact Store.ne_fst_add (h.bars (hd.bar hm)) {}

theorem AllLaid.rows_releaseRow (h : d.AllLaid) (hx : d.screens.get? r = some x)
    (hg : (d.grids.get? x.grid).isSome) :
    ∃ g, (d.releaseRow r).grids.get? x.grid = some g ∧ g.rows = [.star .one] := by
  obtain ⟨g, hg⟩ := Option.isSome_iff_exists.mp hg
  refine ⟨_, ?_, (h.grid hg).rows_releaseReservedRow⟩
  rw [releaseRow, Store.get_of_get? hx]
  exact (Store.get?_modify_self d.grids _ _).trans (congrArg _ hg)

theorem GridsApart.isSome_grid (h : d.GridsApart) (hx : d.screens.get? r = some x) :
    (d.grids.get? x.grid).isSome := by
  have hmade := h.made x.grid (List.mem_of_getElem? (getElem?_ownGrids hx))
  exact Option.isSome_iff_exists.mpr ⟨_, List.getElem?_eq_getElem hmade⟩

end Deck

namespace Session

open Deck
open ScreenDeck.Action (Place Fits)

variable {setup : Setup} {start s : Scene Deck} {es : List Event} {r : Ref .screen} {x : Screen}
  {place : Place}

theorem allLaid_start (h : setup.start = .ok start) : start.state.AllLaid := by
  obtain ⟨settings, -, rfl⟩ := start_eq_ok h
  dsimp only
  unfold Setup.deck
  cases setup.withPage <;> exact ⟨nofun⟩

/-- Removing the menu starts over in every case, with a bar that the screen never had. The row goes unless
the context has been shut down. The bar goes onto the page exactly when the call succeeds, and the page
stays as it is when the call fails. -/
theorem removed_menu_starts_over (hs : setup.start = .ok start) (h : History start.state es s.state)
    (hx : s.state.screens.get? r = some x) (hc : Fits s.context place) (hp : place ≠ .helper) :
    let b := s.state.makeBar.1
    let result := (removeOptionsMenu r s).1
    let d := (removeOptionsMenu r s).2.state
    StartedOver x b s.state d ∧
      (∀ e fs gs y, History start.state fs e → History e gs s.state → e.screens.get? r = some y →
        (e.managers.get y.manager).bar ≠ b) ∧
      (s.context.running = true → ∃ g, d.grids.get? x.grid = some g ∧ g.rows = [.star .one]) ∧
      (s.context.running = false →
        result = .error (.failed (.dispatch .stopped)) ∧ d.grids = s.state.grids) ∧
      (result = .ok () ↔ s.context.running = true ∧ s.state.Takes .setPageCommandBar) ∧
      (result = .ok () → d.attachedBar = some b) ∧
      (∀ e, result = .error e → (∃ f, e = .failed f) ∧ d.page = s.state.page) := by
  have hd : s.state.Equipped := (equipped_start hs).history h
  have hnever (e fs gs y) (he : History start.state fs e) (hes : History e gs s.state)
      (hy : e.screens.get? r = some y) : (e.managers.get y.manager).bar ≠ s.state.makeBar.1 :=
    ((equipped_start hs).history he).bar_ne hes hy
  have hover : StartedOver x s.state.makeBar.1 s.state (s.state.resetBar r) := startedOver_resetBar hd hx
  have hreleased := hover.releaseRow hx
  have hgrid : (s.state.grids.get? x.grid).isSome := ((start_alone hs).2.1.history h).isSome_grid hx
  have hlaid : (s.state.resetBar r).AllLaid := ((allLaid_start hs).history h).of_grids rfl
  have hrow := hlaid.rows_releaseRow hx hgrid
  have hcases := removeOptionsMenu_cases hc hp r
  -- From here on it does not matter which call it was that came to this end.
  generalize removeOptionsMenu r s = ended at hcases ⊢
  obtain ⟨result, _, _, d⟩ := ended
  obtain ⟨hr, rfl, rfl⟩ | ⟨hr, ht, rfl, rfl⟩ | ⟨hr, ht, ⟨f, rfl⟩, rfl⟩ := hcases
  · refine ⟨hover, hnever, by simp [hr], fun _ => ⟨rfl, rfl⟩, by simp [hr], nofun, ?_⟩
    rintro e ⟨⟩
    exact ⟨⟨_, rfl⟩, rfl⟩
  · exact ⟨hreleased.attachBar _, hnever, fun _ => hrow, by simp [hr], by simp [hr, ht],
      fun _ => attachedBar_attachBar ht.2 _, nofun⟩
  · refine ⟨hreleased, hnever, fun _ => hrow, by simp [hr], by simp [ht], nofun, ?_⟩
    rintro e ⟨⟩
    exact ⟨⟨_, rfl⟩, rfl⟩

/-- A screen that is shown with its bar and has an item. The host panics when it is given another bar. -/
def menuOfFirst : Scene Deck :=
  let s := (enableBar ⟨0⟩ { newSession with state := (makeScreen ⟨1⟩ newSession.state).2 }).2
  let t := (showScreen ⟨0⟩ (registerItem ⟨0⟩ ⟨5⟩ s).2).2
  { t with state := { t.state with
      faults := fun call => if call = .setPageCommandBar then .panic else .pass } }

theorem evolves_menuOfFirst : Evolves newSession.state menuOfFirst.state := by
  have hmade : Evolves newSession.state (makeScreen ⟨1⟩ newSession.state).2 := .quiet (.makeScreen ⟨1⟩)
  have henabled (s : Scene Deck) : Evolves s.state (enableBar ⟨0⟩ s).2.state :=
    (composed_enableBar (fun v _ => admits_evolves v) ⟨0⟩).keeps s
  have hregistered (s : Scene Deck) : Evolves s.state (registerItem ⟨0⟩ ⟨5⟩ s).2.state :=
    (composed_registerItem (R := Evolves) ⟨0⟩ ⟨5⟩).keeps s
  have hshown (s : Scene Deck) : Evolves s.state (showScreen ⟨0⟩ s).2.state :=
    (composed_showScreen (fun v _ => admits_evolves v) ⟨0⟩).keeps s
  have hfault (d : Deck) (faults : HostCall → FaultMode) : Evolves d { d with faults } := .quiet (.fault faults)
  have hfirst := henabled { newSession with state := (makeScreen ⟨1⟩ newSession.state).2 }
  have hall := ((hmade.trans hfirst).trans (hregistered _)).trans (hshown _)
  exact hall.trans (hfault _ fun call => if call = .setPageCommandBar then .panic else .pass)

/-- The screen starts over all the same. The page keeps the bar that is no longer its own. -/
theorem panicking_host_keeps_old_bar :
    let s := menuOfFirst
    let t := (removeOptionsMenu ⟨0⟩ s).2
    Setup.start {} = .ok newSession ∧
      (removeOptionsMenu ⟨0⟩ s).1 = .error (.failed (.dispatch .workPanicked)) ∧
      s.state.managers.get? ⟨0⟩ = some ⟨⟨0⟩, true, ⟨#[(⟨5⟩, 0)], 1⟩⟩ ∧
      t.state.managers.get? ⟨0⟩ = some ⟨⟨1⟩, false, ⟨#[], 0⟩⟩ ∧
      (s.state.grids.get? ⟨0⟩).map (·.rows) = some [.star .one, .pixels (.ofInt 78)] ∧
      (∃ g, t.state.grids.get? ⟨0⟩ = some g ∧ g.rows = [.star .one]) ∧
      t.state.page = s.state.page ∧ s.state.attachedBar = some ⟨0⟩ := by
  intro s t
  obtain ⟨es, h⟩ := evolves_iff.mp evolves_menuOfFirst
  have hc : Fits s.context .free := .inl rfl
  have he : (removeOptionsMenu ⟨0⟩ s).1 = .error (.failed (.dispatch .workPanicked)) := rfl
  obtain ⟨hover, -, hrow, -, -, -, hfailed⟩ :=
    removed_menu_starts_over (r := ⟨0⟩) (x := menuOfFirst.state.screens.get ⟨0⟩) start_newSession h rfl hc
      (by decide)
  exact ⟨start_newSession, he, by decide, hover.manager, rfl, hrow rfl, (hfailed _ he).2, by decide⟩

end Session
end ScreenDeck
