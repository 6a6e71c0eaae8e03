import ScreenDeck.Proofs.PageBars
import ScreenDeck.Proofs.Transitions

/-! Shows that fail. The bar of a screen is attached before its content is put on the page, and stays
there when the content is not taken. -/

namespace ScreenDeck

namespace Deck

open Act (containment within)

variable {s : Scene Deck} {r : Ref .screen}

/-- The screen has no bar to show, or the page takes it. -/
def BarPasses (r : Ref .screen) (d : Deck) : Prop :=
  d.visibleBar r = none ∨ d.Takes .setPageCommandBar

/-- The work begins and the bar goes onto the page, but the content does not. -/
def StopsHalfway (r : Ref .screen) (s : Scene Deck) : Prop :=
  s.context.Serves ∧ (s.state.visibleBar r).isSome ∧ s.state.Takes .setPageCommandBar ∧
    ¬ s.state.Takes .setPageContent

instance (r : Ref .screen) (d : Deck) : Decidable (BarPasses r d) :=
  inferInstanceAs (Decidable (_ ∨ _))

instance (r : Ref .screen) (s : Scene Deck) : Decidable (StopsHalfway r s) :=
  inferInstanceAs (Decidable (_ ∧ _))

/-- How a show ends, and what it leaves. -/
theorem showScreen_seen (r : Ref .screen) (s : Scene Deck) :
    let p := (s.state.screens.get r).presenter
    let bar := s.state.visibleBar r
    ((showScreen r s).1, (showScreen r s).2.state) =
      if s.context.Serves then
        if BarPasses r s.state then
          if s.state.Takes .setPageContent then (.ok (), s.state.presented p bar)
          else (containment (.error (s.state.pageRefusal .setPageContent)),
            (s.state.request p).attachBar bar)
        else (containment (.error (s.state.pageRefusal .setPageCommandBar)), s.state.request p)
      else (.error s.context.refusal.1, s.state.request p) := by
  intro p bar
  rw [showScreen_apply, Act.noted_fst, (Act.noted_alike _ _ s).2, present_apply, Act.noted_fst,
    (Act.noted_alike _ _ _).2]
  by_cases hs : s.context.Serves
  · have hr : ({ s with state := s.state.request p } : Scene Deck).context.Serves := hs
    rw [Act.runSync_fst hr, Act.runSync_state hr, showContent_of_request, if_pos hs]
    by_cases hb : BarPasses r s.state
    · have hb' : s.state.visibleBar r = none ∨ s.state.Takes .setPageCommandBar := hb
      by_cases hc : s.state.Takes .setPageContent
      · have hg := grid_get_request s.state p
        simp only [if_pos hb, if_pos hb', if_pos hc, presented]
        exact congrArg (fun g => (Except.ok (), fillPage g ((s.state.request p).attachBar bar))) hg
      · simp only [if_pos hb, if_pos hb', if_neg hc]
        rfl
    · have hb' : ¬ (s.state.visibleBar r = none ∨ s.state.Takes .setPageCommandBar) := hb
      simp only [if_neg hb, if_neg hb']
      rfl
  · have hr : ¬ ({ s with state := s.state.request p } : Scene Deck).context.Serves := hs
    rw [Act.runSync_apply_of_not_serves _ hr, if_neg hs]

theorem containment_error_ne_ok {α : Type} (e : Abort) (a : α) : containment (.error e) ≠ .ok a := by
  cases e <;> exact nofun

/-- A screen is shown exactly when the work begins and the page takes both. -/
theorem showScreen_fst_eq_ok_iff : (showScreen r s).1 = .ok () ↔
    s.context.Serves ∧ BarPasses r s.state ∧ s.state.Takes .setPageContent := by
  have hseen := congrArg Prod.fst (showScreen_seen r s)
  dsimp only at hseen
  rw [hseen]
  by_cases hs : s.context.Serves
  · by_cases hb : BarPasses r s.state
    · by_cases hc : s.state.Takes .setPageContent
      · simp [hs, hb, hc]
      · simp [hs, hb, hc, containment_error_ne_ok]
    · simp [hs, hb, containment_error_ne_ok]
  · simp [hs]

/-- A show that fails has counted the request. If it stops halfway, the bar stays on the page, and else the
page is as it was. -/
theorem showScreen_state_of_error {e : Abort} (h : (showScreen r s).1 = .error e) :
    (showScreen r s).2.state = if StopsHalfway r s then
      (s.state.request (s.state.screens.get r).presenter).attachBar (s.state.visibleBar r)
    else s.state.request (s.state.screens.get r).presenter := by
  have hno : ¬ (s.context.Serves ∧ BarPasses r s.state ∧ s.state.Takes .setPageContent) := by
    rw [← showScreen_fst_eq_ok_iff, h]
    exact nofun
  have hseen := congrArg Prod.snd (showScreen_seen r s)
  dsimp only at hseen
  rw [hseen]
  by_cases hs : s.context.Serves
  · by_cases hb : BarPasses r s.state
    · have hc : ¬ s.state.Takes .setPageContent := fun hc => hno ⟨hs, hb, hc⟩
      simp only [if_pos hs, if_pos hb, if_neg hc]
      rcases hv : s.state.visibleBar r with _ | b
      · -- Without a bar there is nothing to be attached.
        rw [if_neg (by simp [StopsHalfway, hv])]
        rfl
      · have htakes : s.state.Takes .setPageCommandBar := hb.resolve_left (by simp [hv])
        rw [if_pos ⟨hs, by simp [hv], htakes, hc⟩]
    · have hhalf : ¬ StopsHalfway r s := fun hh => hb (.inr hh.2.2.1)
      simp only [if_pos hs, if_neg hb, if_neg hhalf]
  · have hhalf : ¬ StopsHalfway r s := fun hh => hs hh.1
    simp only [if_neg hs, if_neg hhalf]

theorem page_attachBar_eq_iff {d : Deck} (h : d.page.isSome) (b : Ref .bar) :
    (d.attachBar (some b)).page = d.page ↔ d.attachedBar = some b := by
  obtain ⟨page, hp⟩ := Option.isSome_iff_exists.mp h
  obtain ⟨size, content, bar⟩ := page
  simp [attachBar, attachedBar, hp, eq_comm]

/-- A show that fails never changes the content. It leaves the page as it was, unless it stopped between
the two calls and the page had another bar before. -/
theorem failed_show_leaves_page_iff {e : Abort} (h : (showScreen r s).1 = .error e) :
    let t := (showScreen r s).2.state
    t.shownGrid = s.state.shownGrid ∧
      t.attachedBar = (if StopsHalfway r s then s.state.visibleBar r else s.state.attachedBar) ∧
      (t.page = s.state.page ↔ ¬ StopsHalfway r s ∨ s.state.attachedBar = s.state.visibleBar r) := by
  intro t
  have ht : t = _ := showScreen_state_of_error h
  rw [ht]
  by_cases hhalf : StopsHalfway r s
  · obtain ⟨-, hbar, ⟨-, hpage⟩, -⟩ := id hhalf
    obtain ⟨b, hb⟩ := Option.isSome_iff_exists.mp hbar
    have hiff := page_attachBar_eq_iff (d := s.state.request (s.state.screens.get r).presenter) hpage b
    simp only [if_pos hhalf, hb]
    refine ⟨shownGrid_attachBar _ _, attachedBar_attachBar hpage b, hiff.trans ?_⟩
    exact ⟨.inr, fun hor => hor.resolve_left fun hn => hn hhalf⟩
  · simp only [if_neg hhalf]
    exact ⟨rfl, rfl, fun _ => .inl hhalf, fun _ => rfl⟩

end Deck

namespace Session

open Deck

/-- Two screens with bars. The first is shown, and then the page no longer takes content. -/
def contentFails (mode : FaultMode) : Scene Deck :=
  let s := (showScreen ⟨0⟩ barOfFirst).2
  let t := (setBarVisible ⟨1⟩ true s).2
  { t with state := { t.state with
      faults := fun call => if call = .setPageContent then mode else .pass } }

/-- The bar of the first screen is on the page already, so a show that stops halfway changes nothing. -/
theorem failed_reshow_leaves_page :
    let s := contentFails .panic
    let t := (showScreen ⟨0⟩ s).2
    (showScreen ⟨0⟩ s).1 = .error (.failed (.dispatch .workPanicked)) ∧ StopsHalfway ⟨0⟩ s ∧
      t.state.shownGrid = some ⟨0⟩ ∧ t.state.attachedBar = some ⟨0⟩ ∧
      t.state.page = s.state.page := by
  intro s t
  have he : (showScreen ⟨0⟩ s).1 = .error (.failed (.dispatch .workPanicked)) := rfl
  have hhalf : StopsHalfway ⟨0⟩ s := by decide
  obtain ⟨hgrid, hbar, hpage⟩ := failed_show_leaves_page_iff he
  rw [if_pos hhalf] at hbar
  exact ⟨he, hhalf, hgrid, hbar, hpage.mpr (.inr rfl)⟩

/-- The show of the second screen fails. The content of the first stays, under the bar of the second. -/
theorem failed_show_changes_bar :
    let s := contentFails .refuse
    let t := (showScreen ⟨1⟩ s).2
    (showScreen ⟨1⟩ s).1 = .error (.failed (.invalidState (.refused .setPageContent))) ∧
      s.state.shownGrid = some ⟨0⟩ ∧ s.state.attachedBar = some ⟨0⟩ ∧
      t.state.shownGrid = some ⟨0⟩ ∧ t.state.attachedBar = some ⟨1⟩ ∧
      t.state.page ≠ s.state.page := by
  refine ⟨rfl, by decide, by decide, by decide, by decide, by decide⟩

end Session

end ScreenDeck
