import ScreenDeck.Proofs.PageCalls
import ScreenDeck.Proofs.Presenters
import ScreenDeck.Proofs.SessionHistories

/-! The bar on the page. It stays until another bar is attached or the page is opened or closed, so
a screen that is shown while its own bar is hidden leaves the bar that was attached last. -/

namespace ScreenDeck

namespace Deck

def Event.LeavesBar : Event → Prop
  | .requested _ | .filled _ | .resized _ => True
  | .attached _ | .opened | .closed => False

/-- The bar was attached, and none after it, nor has the page been opened or closed. -/
def LastAttached (es : List Event) (b : Ref .bar) : Prop :=
  ∃ pre post, es = pre ++ .attached b :: post ∧ ∀ v ∈ post, v.LeavesBar

theorem not_lastAttached_nil (b : Ref .bar) : ¬ LastAttached [] b := by
  rintro ⟨pre, post, he, -⟩
  simp at he

/-- The last event decides, unless it leaves the bar. -/
theorem lastAttached_concat {es : List Event} {v : Event} {b : Ref .bar} :
    LastAttached (es ++ [v]) b ↔ v = .attached b ∨ v.LeavesBar ∧ LastAttached es b := by
  constructor
  · rintro ⟨pre, post, he, hp⟩
    -- The attachment is the event at the end, or that event came after it.
    rcases List.eq_nil_or_concat post with rfl | ⟨post, w, rfl⟩
    · have hv := (List.append_inj' he rfl).2
      exact .inl (List.singleton_inj.mp hv)
    · rw [List.concat_eq_append, ← List.cons_append, ← List.append_assoc] at he
      obtain ⟨hes, hv⟩ := List.append_inj' he rfl
      obtain rfl := List.singleton_inj.mp hv
      refine .inr ⟨hp v (by simp), pre, post, hes, fun y hy => hp y ?_⟩
      simp [hy]
  · rintro (rfl | ⟨hv, pre, post, rfl, hp⟩)
    · exact ⟨es, [], rfl, by simp⟩
    · refine ⟨pre, post ++ [v], by simp, fun y hy => ?_⟩
      rcases List.mem_append.mp hy with hy | hy
      · exact hp y hy
      · rwa [List.mem_singleton.mp hy]

variable {d e : Deck} {es : List Event} {v : Option Event}

theorem Move.attachedBar (hm : Move d v e) :
    (∃ b, v = some (.attached b) ∧ e.attachedBar = some b) ∨
      (v = some .opened ∨ v = some .closed) ∧ e.attachedBar = none ∨
      (∀ w ∈ v, w.LeavesBar) ∧ e.attachedBar = d.attachedBar := by
  have hnone : ∀ w ∈ (none : Option Event), w.LeavesBar := by simp
  cases hm with
  | attach h b => exact .inl ⟨b, rfl, rfl⟩
  | openPage => exact .inr (.inl ⟨.inl rfl, rfl⟩)
  | closePage => exact .inr (.inl ⟨.inr rfl, rfl⟩)
  | request p => exact .inr (.inr ⟨by simp [Event.LeavesBar], rfl⟩)
  | fill h g =>
    refine .inr (.inr ⟨by simp [Event.LeavesBar], ?_⟩)
    simp [Deck.attachedBar, h]
  | resize h size =>
    refine .inr (.inr ⟨by simp [Event.LeavesBar], ?_⟩)
    simp [Deck.attachedBar, h]
  | dispose s =>
    rw [release_eq]
    exact .inr (.inr ⟨hnone, rfl⟩)
  | release s =>
    rw [release_eq]
    exact .inr (.inr ⟨hnone, rfl⟩)
  | makeWidget handle sharing => cases sharing <;> exact .inr (.inr ⟨hnone, rfl⟩)
  | _ => exact .inr (.inr ⟨hnone, rfl⟩)

/-- The page has the bar that was attached last since it was opened. -/
theorem History.attachedBar_eq_some_iff (h : History d es e) (hd : d.attachedBar = none)
    (b : Ref .bar) : e.attachedBar = some b ↔ LastAttached es b := by
  induction h with
  | start => simp [hd, not_lastAttached_nil]
  | @move es e f v _ hm ih =>
    -- What came last decides, unless it leaves the bar to what came before.
    rcases hm.attachedBar with ⟨c, rfl, hf⟩ | ⟨hv, hf⟩ | ⟨hv, hf⟩
    · rw [Option.toList_some, lastAttached_concat, hf]
      simp [Event.LeavesBar]
    · rcases hv with rfl | rfl <;>
        simp [lastAttached_concat, hf, Event.LeavesBar]
    · cases v with
      | none => simpa [hf] using ih
      | some w =>
        have hw := hv w rfl
        rw [Option.toList_some, lastAttached_concat, hf, ih]
        constructor
        · exact fun hl => .inr ⟨hw, hl⟩
        · rintro (rfl | ⟨-, hl⟩)
          · exact hw.elim
          · exact hl

/-! Screens that are shown. -/

/-- No bar shows on the page but that of the screen. -/
def BarLaw (d : Deck) (r : Ref .screen) : Prop :=
  match d.visibleBar r with
  | some b => d.attachedBar = some b
  | none => ∀ b, d.attachedBar = some b → (d.bars.get b).visible = false

theorem visibleBar_eq_none_iff (d : Deck) (r : Ref .screen) :
    d.visibleBar r = none ↔ d.barVisible r = false := by
  simp [visibleBar, barVisible]

theorem visibleBar_presented (p : Ref .presenter) (bar : Option (Ref .bar)) (d : Deck)
    (r : Ref .screen) : (d.presented p bar).visibleBar r = d.visibleBar r := by
  cases bar <;> rfl

theorem bars_presented (p : Ref .presenter) (bar : Option (Ref .bar)) (d : Deck) :
    (d.presented p bar).bars = d.bars := by
  cases bar <;> rfl

theorem shownGrid_presented {d : Deck} (h : d.page.isSome) (p : Ref .presenter)
    (bar : Option (Ref .bar)) :
    (d.presented p bar).shownGrid = some (d.presenters.get p).grid := by
  have hp : ((d.request p).attachBar bar).page.isSome := by
    rw [isSome_page_attachBar]
    exact h
  exact shownGrid_fillPage hp _

theorem attachedBar_presented {d : Deck} (h : d.page.isSome) (p : Ref .presenter)
    (bar : Option (Ref .bar)) : (d.presented p bar).attachedBar = bar.or d.attachedBar := by
  rw [presented, attachedBar_fillPage]
  cases bar with
  | none => rfl
  | some b => exact attachedBar_attachBar h b

theorem showScreen_eq_ok {r : Ref .screen} {s t : Scene Deck} (h : showScreen r s = (.ok (), t)) :
    s.state.page.isSome ∧
      t.state = s.state.presented (s.state.screens.get r).presenter (s.state.visibleBar r) := by
  rw [showScreen_apply] at h
  obtain ⟨⟨⟩, u, hu, ht⟩ := Act.bind_eq_ok h
  obtain ⟨hp, hs⟩ := present_eq_ok hu
  cases ht
  exact ⟨hp, hs⟩

/-- A screen that is shown breaks the law exactly when its bar is hidden and the bar that was on the
page still shows. -/
theorem barLaw_showScreen_iff {r : Ref .screen} {s t : Scene Deck}
    (h : showScreen r s = (.ok (), t)) :
    t.state.BarLaw r ↔ s.state.barVisible r = true ∨
      ∀ b, s.state.attachedBar = some b → (s.state.bars.get b).visible = false := by
  obtain ⟨hp, ht⟩ := showScreen_eq_ok h
  rw [ht, BarLaw, visibleBar_presented, attachedBar_presented hp, bars_presented]
  have hv := visibleBar_eq_none_iff s.state r
  cases hb : s.state.visibleBar r with
  | none => simp [hv.mp hb]
  | some b =>
    have hvis : s.state.barVisible r = true := by
      rw [← Bool.not_eq_false, ← hv, hb]
      exact nofun
    simp [hvis]

end Deck

namespace Session

open Deck

theorem start_state {setup : Setup} {s : Scene Deck} (h : setup.start = .ok s) :
    s.state.attachedBar = none ∧ s.state.screens = {} := by
  obtain ⟨settings, -, rfl⟩ := start_eq_ok h
  unfold Setup.deck
  cases setup.withPage <;> exact ⟨rfl, rfl⟩

/-- Whatever has been done since the session began, a screen that was shown has its grid on the
page, and its bar too if that shows. The page has a bar of others that shows when the bar of the
screen is hidden and the bar that was attached last shows, and only then. -/
theorem shown_screen_barLaw_iff {setup : Setup} {start s t : Scene Deck} {es : List Event}
    {r : Ref .screen} {x : Screen} (hs : setup.start = .ok start)
    (h : History start.state es s.state) (hr : s.state.screens.get? r = some x)
    (hok : showScreen r s = (.ok (), t)) :
    t.state.shownGrid = some x.grid ∧
      (∀ b, t.state.visibleBar r = some b → t.state.attachedBar = some b) ∧
      (t.state.BarLaw r ↔ s.state.barVisible r = true ∨
        ∀ b, LastAttached es b → (s.state.bars.get b).visible = false) := by
  obtain ⟨hbar, hscreens⟩ := start_state hs
  have hempty : start.state.OwnGrids := by
    intro q y hq
    rw [hscreens] at hq
    cases hq
  obtain ⟨y, hy, hg⟩ := hempty.history h r x hr
  obtain ⟨hp, ht⟩ := showScreen_eq_ok hok
  refine ⟨?_, ?_, ?_⟩
  · rw [ht, shownGrid_presented hp, Store.get_of_get? hr, Store.get_of_get? hy, hg]
  · intro b hb
    rw [ht, visibleBar_presented] at hb
    rw [ht, attachedBar_presented hp, hb]
    rfl
  · rw [barLaw_showScreen_iff hok]
    simp only [h.attachedBar_eq_some_iff hbar]

def newSession : Scene Deck where
  context := { mode := .inPlace }
  state :=
    let d : Deck := { settings := {}, contentSize := ⟨.ofInt 480, .ofInt 800⟩ }
    d.openPage

def barOfFirst : Scene Deck :=
  (setBarVisible ⟨0⟩ true
    { newSession with state := (makeScreen ⟨2⟩ (makeScreen ⟨1⟩ newSession.state).2).2 }).2

theorem start_newSession : Setup.start {} = .ok newSession := rfl

theorem first_screen_barLaw :
    let t := (showScreen ⟨0⟩ barOfFirst).2
    History newSession.state [] barOfFirst.state ∧ (showScreen ⟨0⟩ barOfFirst).1 = .ok () ∧
      t.state.shownGrid = some ⟨0⟩ ∧ t.state.attachedBar = some ⟨0⟩ ∧ t.state.BarLaw ⟨0⟩ := by
  have h : History newSession.state [] barOfFirst.state :=
    ((History.start.move (.makeScreen ⟨1⟩)).move (.makeScreen ⟨2⟩)).move (.setVisible ⟨0⟩ true)
  obtain ⟨hgrid, hbar, hlaw⟩ := shown_screen_barLaw_iff (r := ⟨0⟩) start_newSession h rfl rfl
  exact ⟨h, rfl, hgrid, hbar ⟨0⟩ rfl, hlaw.mpr (.inl rfl)⟩

/-- The second screen is shown without a bar, and the page keeps the bar of the first. -/
theorem second_screen_keeps_bar_of_first :
    let s := (showScreen ⟨0⟩ barOfFirst).2
    let t := (showScreen ⟨1⟩ s).2
    (showScreen ⟨1⟩ s).1 = .ok () ∧ t.state.visibleBar ⟨1⟩ = none ∧
      t.state.shownGrid = some ⟨1⟩ ∧ t.state.attachedBar = some ⟨0⟩ ∧
      t.state.visibleBar ⟨0⟩ = some ⟨0⟩ ∧ ¬ t.state.BarLaw ⟨1⟩ := by
  refine ⟨rfl, rfl, rfl, rfl, rfl, fun hlaw => ?_⟩
  have hhidden := hlaw ⟨0⟩ rfl
  exact absurd hhidden (by decide)

end Session
end ScreenDeck
