import ScreenDeck.Proofs.PageCalls

/-! Presentation through an engine that invokes each switch at once. It leaves the deck and the
context as plain presentation does, but a switch that fails goes no further than a notice. -/

namespace ScreenDeck.Deck

/-- A switch that is invoked at once fails when its call is not taken, and nobody hears of it. -/
theorem runImmediate_apply {x : Switch} {s : Scene Deck} (hs : s.context.Serves)
    (hh : s.context.StaysHere) (hx : s.state.isCurrent x = true) :
    ∃ n, runImmediate x s = (.ok (), { s with
      state :=
        if s.state.Takes .setPageContent then
          s.state.fillPage (s.state.presenters.get x.presenter).grid
        else s.state
      notices := s.notices ++ n }) := by
  rw [runImmediate, Act.bind_apply, Act.attempt_apply, invoke_apply, Act.runSync_apply_of_home hs.1 hh,
    Act.contained_apply, switchContent_apply, if_pos hx]
  by_cases hc : s.state.Takes .setPageContent
  · simp only [if_pos hc]
    refine ⟨[], ?_⟩
    rw [List.append_nil]
    rfl
  · simp only [if_neg hc, pageRefusal]
    cases s.state.faults .setPageContent with
    | pass => exact ⟨_, rfl⟩
    | refuse => exact ⟨_, rfl⟩
    | panic =>
      refine ⟨[.workPanicked, .switchFailed], ?_⟩
      simp only [Act.note_apply, List.append_assoc]
      rfl

/-- The immediate engine runs the switch at once and only notes how that ends. -/
theorem showSwitch_apply {x : Switch} {bar : Option (Ref .bar)} {s : Scene Deck} (kind : Int32)
    (hs : s.context.Serves) (hh : s.context.StaysHere) (hx : s.state.isCurrent x = true) :
    ∃ n, showSwitch .immediate bar kind x s =
      if bar = none ∨ s.state.Takes .setPageCommandBar then
        (.ok (), { s with
          state :=
            if s.state.Takes .setPageContent then
              (s.state.attachBar bar).fillPage (s.state.presenters.get x.presenter).grid
            else s.state.attachBar bar
          notices := s.notices ++ n })
      else (.error (s.state.pageRefusal .setPageCommandBar), s) := by
  rw [showSwitch, Act.bind_apply, showBar_apply]
  by_cases hb : bar = none ∨ s.state.Takes .setPageCommandBar
  · have hcur : (s.state.attachBar bar).isCurrent x = true := by
      rwa [isCurrent, presenters_attachBar]
    obtain ⟨n, hn⟩ := runImmediate_apply (s := { s with state := s.state.attachBar bar }) hs hh hcur
    refine ⟨n, ?_⟩
    simp only [if_pos hb, runTransition, hn, takes_attachBar, presenters_attachBar]
  · exact ⟨[], by simp only [if_neg hb]⟩

theorem isCurrent_nextSwitch (p : Ref .presenter) (d : Deck) :
    (d.request p).isCurrent (d.nextSwitch p) = true := decide_eq_true rfl

section Request

variable (p : Ref .presenter) (bar : Option (Ref .bar)) (kind : Int32) {s : Scene Deck}

theorem showSwitch_of_request (hs : s.context.Serves) :
    let t := Act.within { s with state := s.state.request p }
    ∃ n, showSwitch .immediate bar kind (s.state.nextSwitch p) t =
      if bar = none ∨ s.state.Takes .setPageCommandBar then
        (.ok (), { t with
          state :=
            if s.state.Takes .setPageContent then
              (t.state.attachBar bar).fillPage (t.state.presenters.get p).grid
            else t.state.attachBar bar
          notices := t.notices ++ n })
      else (.error (s.state.pageRefusal .setPageCommandBar), t) :=
  showSwitch_apply (s := Act.within { s with state := s.state.request p }) kind hs.inside
    s.context.staysHere_inside (isCurrent_nextSwitch p s.state)

theorem showContent_of_request (s : Scene Deck) :
    let t := Act.within { s with state := s.state.request p }
    showContent p bar t =
      if bar = none ∨ s.state.Takes .setPageCommandBar then
        if s.state.Takes .setPageContent then
          (.ok (), { t with state := (t.state.attachBar bar).fillPage (t.state.presenters.get p).grid })
        else (.error (s.state.pageRefusal .setPageContent), { t with state := t.state.attachBar bar })
      else (.error (s.state.pageRefusal .setPageCommandBar), t) :=
  showContent_apply p bar (Act.within { s with state := s.state.request p })

variable {p} (he : (s.state.presenters.get p).engine = .immediate)
include he

/-- What is left behind does not depend on whether there was a transition. -/
theorem presentWithTransition_alike :
    (presentWithTransition p bar kind s).2.Alike (present p bar s).2 := by
  rw [presentWithTransition_apply, present_apply, engine_get_request, he]
  refine (Act.noted_alike _ _ _).trans (Scene.Alike.trans ?_ (Act.noted_alike _ _ _).symm)
  -- Both count the request first, so only the two pieces of work differ.
  refine Act.runSync_alike fun hs => ?_
  obtain ⟨n, hn⟩ := showSwitch_of_request p bar kind (s := s) hs
  rw [hn, showContent_of_request]
  by_cases hb : bar = none ∨ s.state.Takes .setPageCommandBar
  · by_cases hc : s.state.Takes .setPageContent <;> simp only [hb, hc, if_true, if_false] <;>
      exact ⟨rfl, rfl⟩
  · simp only [hb, if_false]
    exact ⟨rfl, rfl⟩

/-- The two end alike, unless the content is the only thing that is not taken. -/
theorem presentWithTransition_fst :
    (presentWithTransition p bar kind s).1 =
      if s.context.Serves ∧ (bar = none ∨ s.state.Takes .setPageCommandBar) ∧
        ¬ s.state.Takes .setPageContent then .ok () else (present p bar s).1 := by
  rw [presentWithTransition_apply, present_apply, engine_get_request, he, Act.noted_fst, Act.noted_fst]
  by_cases hs : s.context.Serves
  · have hr : ({ s with state := s.state.request p } : Scene Deck).context.Serves := hs
    obtain ⟨n, hn⟩ := showSwitch_of_request p bar kind hs
    rw [Act.runSync_fst hr, Act.runSync_fst hr, hn, showContent_of_request]
    by_cases hb : bar = none ∨ s.state.Takes .setPageCommandBar
    · by_cases hc : s.state.Takes .setPageContent <;> simp [hs, hb, hc, Act.containment]
    · simp [hb]
  · have hr : ¬ ({ s with state := s.state.request p } : Scene Deck).context.Serves := hs
    rw [Act.runSync_apply_of_not_serves _ hr, Act.runSync_apply_of_not_serves _ hr]
    simp [hs]

omit he in
theorem present_fst_of_untaken (hs : s.context.Serves)
    (hb : bar = none ∨ s.state.Takes .setPageCommandBar) (hc : ¬ s.state.Takes .setPageContent) :
    (present p bar s).1 = Act.containment (.error (s.state.pageRefusal .setPageContent)) := by
  have hr : ({ s with state := s.state.request p } : Scene Deck).context.Serves := hs
  rw [present_apply, Act.noted_fst, Act.runSync_fst hr, showContent_of_request]
  simp [hb, hc]

end Request

theorem takes_iff_of_pass {d : Deck} (hf : ∀ call, d.faults call = .pass) (call : HostCall) :
    d.Takes call ↔ d.page.isSome := by
  simp [Takes, hf call]

section Screens

variable {r : Ref .screen} {s : Scene Deck} (hf : ∀ call, s.state.faults call = .pass)
include hf

theorem missing_page_iff :
    s.context.Serves ∧ s.state.page = none ∧ s.state.visibleBar r = none ↔
      s.context.Serves ∧ (s.state.visibleBar r = none ∨ s.state.Takes .setPageCommandBar) ∧
        ¬ s.state.Takes .setPageContent := by
  rw [takes_iff_of_pass hf, takes_iff_of_pass hf]
  cases s.state.page <;> simp

theorem showScreen_fst_of_missing_page
    (h : s.context.Serves ∧ s.state.page = none ∧ s.state.visibleBar r = none) :
    (showScreen r s).1 = .error (.failed (.invalidState .noActivePage)) := by
  obtain ⟨hs, hb, hc⟩ := (missing_page_iff hf).mp h
  rw [showScreen_apply, Act.noted_fst, present_fst_of_untaken _ hs hb hc, pageRefusal, hf]
  rfl

variable (he : (s.state.presenters.get (s.state.screens.get r).presenter).engine = .immediate)
include he

theorem showWithTransition_fst (kind : Int32) :
    (showWithTransition r kind s).1 =
      if s.context.Serves ∧ s.state.page = none ∧ s.state.visibleBar r = none then .ok ()
      else (showScreen r s).1 := by
  rw [showWithTransition_apply, showScreen_apply, Act.noted_fst, Act.noted_fst,
    presentWithTransition_fst _ _ he]
  simp only [missing_page_iff hf]

omit hf in
theorem showWithTransition_alike (kind : Int32) :
    (showWithTransition r kind s).2.Alike (showScreen r s).2 := by
  have hp := presentWithTransition_alike (s.state.visibleBar r) kind he
  rw [showWithTransition_apply, showScreen_apply]
  exact (Act.noted_alike _ _ s).trans (hp.trans (Act.noted_alike _ _ s).symm)

/-- With an engine that invokes each switch at once, a transition is the same as being shown, but for
how it ends when there is no page and no bar to show: the one fails, and the other does not. -/
theorem showWithTransition_agrees_iff (kind : Int32) :
    (showWithTransition r kind s).2.Alike (showScreen r s).2 ∧
      ((showWithTransition r kind s).1 = (showScreen r s).1 ↔
        ¬ (s.context.Serves ∧ s.state.page = none ∧ s.state.visibleBar r = none)) ∧
      (s.context.Serves ∧ s.state.page = none ∧ s.state.visibleBar r = none →
        (showScreen r s).1 = .error (.failed (.invalidState .noActivePage)) ∧
          (showWithTransition r kind s).1 = .ok ()) := by
  have hfst := showWithTransition_fst hf he kind
  refine ⟨showWithTransition_alike he kind, ?_, ?_⟩
  · rw [hfst]
    constructor
    · intro h hc
      rw [if_pos hc, showScreen_fst_of_missing_page hf hc] at h
      cases h
    · intro hc
      rw [if_neg hc]
  · intro h
    exact ⟨showScreen_fst_of_missing_page hf h, by rw [hfst, if_pos h]⟩

end Screens

def pageless : Scene Deck where
  context := { mode := .inPlace }
  state :=
    let d : Deck := { settings := {}, contentSize := ⟨.ofInt 480, .ofInt 800⟩ }
    (makeScreen ⟨1⟩ d).2

/-- With a bar to show, both miss the page. -/
theorem showWithTransition_agrees_with_bar :
    let s := (setBarVisible ⟨0⟩ true pageless).2
    (∀ call, s.state.faults call = .pass) ∧
      (s.state.presenters.get (s.state.screens.get ⟨0⟩).presenter).engine = .immediate ∧
      s.state.page = none ∧ (showWithTransition ⟨0⟩ 1 s).2.Alike (showScreen ⟨0⟩ s).2 ∧
      (showWithTransition ⟨0⟩ 1 s).1 = (showScreen ⟨0⟩ s).1 := by
  have hf (call : HostCall) : (setBarVisible ⟨0⟩ true pageless).2.state.faults call = .pass := rfl
  have h := showWithTransition_agrees_iff (r := ⟨0⟩) hf rfl 1
  refine ⟨hf, rfl, rfl, h.1, h.2.1.mpr ?_⟩
  rintro ⟨-, -, hb⟩
  exact absurd hb (by decide)

theorem missing_page_is_not_reported :
    (showScreen ⟨0⟩ pageless).1 = .error (.failed (.invalidState .noActivePage)) ∧
      (showWithTransition ⟨0⟩ 1 pageless).1 = .ok () := ⟨rfl, rfl⟩

end ScreenDeck.Deck
