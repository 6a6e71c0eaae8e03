import ScreenDeck.Proofs.PageCalls
import ScreenDeck.Proofs.Presenters

/-! Switches that are invoked late. A switch is stale once its own presenter has had a later
request. The requests of other presenters do not make it stale, although they share the page. -/

namespace ScreenDeck.Deck

open Act (Composed)

abbrev RequestFree (d e : Deck) : Prop := e.presenters = d.presenters

instance : Act.Steady (Act.OnState RequestFree) :=
  Act.steady_onState (fun _ => rfl) fun h h' => h'.trans h

theorem requestFree_setPageContent (g : Ref .grid) : Composed RequestFree (setPageContent g) :=
  composed_setPageContent_of g fun _ => rfl

theorem requestFree_showBar (bar : Option (Ref .bar)) : Composed RequestFree (showBar bar) := by
  cases bar with
  | none => exact Composed.pure ()
  | some b => exact composed_setPageBar_of b fun _ => rfl

theorem requestFree_runTransition (engine : Engine) (kind : Int32) (x : Switch) :
    Composed RequestFree (runTransition engine kind x) :=
  composed_runTransition_of requestFree_setPageContent engine (fun _ => rfl) fun _ => rfl

theorem presenters_present (p : Ref .presenter) (bar : Option (Ref .bar)) (s : Scene Deck) :
    (present p bar s).2.state.presenters = (s.state.request p).presenters := by
  rw [present_apply]
  refine Composed.keeps (R := RequestFree) (.bind (.runSync ?_) fun _ => .note _) _
  exact (requestFree_showBar bar).bind fun _ => Composed.state.bind fun _ =>
    requestFree_setPageContent _

theorem presenters_presentWithTransition (p : Ref .presenter) (bar : Option (Ref .bar))
    (kind : Int32) (s : Scene Deck) :
    (presentWithTransition p bar kind s).2.state.presenters = (s.state.request p).presenters := by
  rw [presentWithTransition_apply]
  refine Composed.keeps (R := RequestFree) (.bind (.runSync ?_) fun _ => .note _) _
  exact (requestFree_showBar bar).bind fun _ => requestFree_runTransition _ kind _

/-- A request that returns: of the presenter, or of a screen that has the presenter. -/
inductive Requests (p : Ref .presenter) (s t : Scene Deck) : Prop
  | present (bar : Option (Ref .bar)) (h : present p bar s = (.ok (), t))
  | transition (bar : Option (Ref .bar)) (kind : Int32)
      (h : presentWithTransition p bar kind s = (.ok (), t))
  | shown (r : Ref .screen) (hr : (s.state.screens.get r).presenter = p)
      (h : showScreen r s = (.ok (), t))
  | shownWithTransition (r : Ref .screen) (kind : Int32) (hr : (s.state.screens.get r).presenter = p)
      (h : showWithTransition r kind s = (.ok (), t))

theorem showScreen_state (r : Ref .screen) (s : Scene Deck) :
    (showScreen r s).2.state =
      (present (s.state.screens.get r).presenter (s.state.visibleBar r) s).2.state := by
  rw [showScreen_apply]
  exact (Act.noted_alike _ _ s).2

theorem showWithTransition_state (r : Ref .screen) (kind : Int32) (s : Scene Deck) :
    (showWithTransition r kind s).2.state =
      (presentWithTransition (s.state.screens.get r).presenter (s.state.visibleBar r) kind
        s).2.state := by
  rw [showWithTransition_apply]
  exact (Act.noted_alike _ _ s).2

/-- A request that returns has been counted once, in whichever way it was made. -/
theorem Requests.presenters {p : Ref .presenter} {s t : Scene Deck} (h : Requests p s t) :
    t.state.presenters = (s.state.request p).presenters := by
  cases h with
  | present bar h =>
    have hp := presenters_present p bar s
    rwa [h] at hp
  | transition bar kind h =>
    have hp := presenters_presentWithTransition p bar kind s
    rwa [h] at hp
  | shown r hr h =>
    have hp := presenters_present p (s.state.visibleBar r) s
    rwa [← hr, ← showScreen_state, h, hr] at hp
  | shownWithTransition r kind hr h =>
    have hp := presenters_presentWithTransition p (s.state.visibleBar r) kind s
    rwa [← hr, ← showWithTransition_state, h, hr] at hp

/-- The requests before this one, this one and those after it add up. -/
theorem Requests.presenter_later {p q : Ref .presenter} {d : Deck} {u v w : Scene Deck}
    {es fs : List Event} {x : Presenter} (hd : d.presenters.get? p = some x)
    (h₁ : History d es u.state) (hq : Requests q u v) (h₂ : History v.state fs w.state) :
    w.state.presenters.get? p = some (x.asked
      (es.count (.requested p) + (if q = p then 1 else 0) + fs.count (.requested p))) := by
  have hu := h₁.presenter hd
  have hv : v.state.presenters.get? p =
      some (x.asked (es.count (.requested p) + if q = p then 1 else 0)) := by
    rw [hq.presenters]
    by_cases hqp : q = p
    · subst hqp
      rw [get?_request_self, hu, if_pos rfl, ← Presenter.asked_asked]
      rfl
    · rw [get?_request_ne _ hqp, hu, if_neg hqp]
      rfl
  rw [h₂.presenter hv, Presenter.asked_asked]

/-- Only later requests of its own presenter make a switch stale. -/
theorem isCurrent_nextSwitch_iff {p q : Ref .presenter} {s u v w : Scene Deck} {es fs : List Event}
    (bar : Option (Ref .bar)) (kind : Int32) (hp : (s.state.presenters.get? p).isSome)
    (h₁ : History (presentWithTransition p bar kind s).2.state es u.state) (hq : Requests q u v)
    (h₂ : History v.state fs w.state) :
    w.state.isCurrent (s.state.nextSwitch p) = true ↔
      ¬ (q = p ∨ .requested p ∈ es ∨ .requested p ∈ fs) := by
  obtain ⟨x, hx⟩ := Option.isSome_iff_exists.mp hp
  have hr : (s.state.request p).presenters.get? p = some (x.asked 1) := by
    rw [get?_request_self, hx]
    rfl
  have ht : (presentWithTransition p bar kind s).2.state.presenters.get? p = some (x.asked 1) := by
    rw [presenters_presentWithTransition, hr]
  have hw := Store.get_of_get? (hq.presenter_later ht h₁ h₂)
  have hnew : (s.state.nextSwitch p).generation = (x.asked 1).generation := by
    rw [nextSwitch, Store.get_of_get? hr]
  have hcur : w.state.isCurrent (s.state.nextSwitch p) = true ↔
      es.count (.requested p) + (if q = p then 1 else 0) + fs.count (.requested p) = 0 := by
    have hpres : (s.state.nextSwitch p).presenter = p := rfl
    rw [isCurrent, hnew, hpres, hw, decide_eq_true_iff]
    simp only [Presenter.asked]
    omega
  rw [hcur]
  by_cases hqp : q = p
  · simp [hqp]
  · simp [hqp, List.count_eq_zero]

/-- A later request that returned keeps a late switch from changing what the page shows when it was
made of the presenter of the switch, as any other request of that presenter does. The requests of
other presenters do not: their content is overwritten as soon as the work and the call are taken. -/
theorem shownGrid_invoke_eq_iff {p q : Ref .presenter} {s u v w : Scene Deck} {es fs : List Event}
    (bar : Option (Ref .bar)) (kind : Int32) (hp : (s.state.presenters.get? p).isSome)
    (h₁ : History (presentWithTransition p bar kind s).2.state es u.state) (hq : Requests q u v)
    (h₂ : History v.state fs w.state) :
    (invoke (s.state.nextSwitch p) w).2.state.shownGrid = w.state.shownGrid ↔
      (q = p ∨ .requested p ∈ es ∨ .requested p ∈ fs) ∨
        ¬ (w.context.Serves ∧ w.state.Takes .setPageContent) ∨
        w.state.shownGrid = some (w.state.presenters.get p).grid := by
  have hx := isCurrent_nextSwitch_iff bar kind hp h₁ hq h₂
  rw [invoke_state]
  by_cases hlater : q = p ∨ .requested p ∈ es ∨ .requested p ∈ fs
  · have hstale : ¬ w.state.isCurrent (s.state.nextSwitch p) = true := fun h => hx.mp h hlater
    simp [hstale, hlater]
  · -- The switch is current, so nothing but the context and the frame can refuse it.
    have hcurrent := hx.mpr hlater
    by_cases htaken : w.context.Serves ∧ w.state.Takes .setPageContent
    · rw [if_pos ⟨htaken.1, hcurrent, htaken.2⟩, shownGrid_fillPage htaken.2.2]
      have hpres : (s.state.nextSwitch p).presenter = p := rfl
      simp only [hlater, htaken, hpres, false_or, not_true_eq_false, and_self]
      exact eq_comm
    · have hno : ¬ (w.context.Serves ∧ w.state.isCurrent (s.state.nextSwitch p) = true ∧
          w.state.Takes .setPageContent) := fun h => htaken ⟨h.1, h.2.2⟩
      simp [if_neg hno, htaken]

/-- Two screens that share a page, and an engine that holds its switches. -/
def heldSwitches : Scene Deck where
  context := { mode := .inPlace }
  state :=
    let d : Deck := {
      settings := {}
      contentSize := ⟨.ofInt 480, .ofInt 800⟩
      screenEngine := .host
      engineMode := .deferred }
    (makeScreen ⟨2⟩ (makeScreen ⟨1⟩ d.openPage).2).2

/-- The first screen is asked again once the second is shown, so its old switch leaves the page to
the second. -/
theorem shownGrid_invoke_of_asked_again :
    let t := (presentWithTransition ⟨0⟩ none 1 heldSwitches).2
    let v := (present ⟨1⟩ none t).2
    let w := { v with state := v.state.request ⟨0⟩ }
    Requests ⟨1⟩ t v ∧ History v.state [.requested ⟨0⟩] w.state ∧ w.state.shownGrid = some ⟨1⟩ ∧
      (invoke (heldSwitches.state.nextSwitch ⟨0⟩) w).2.state.shownGrid = w.state.shownGrid := by
  intro t v w
  have hq : Requests ⟨1⟩ t v := .present none rfl
  have h : History v.state [.requested ⟨0⟩] w.state := History.start.move (.request ⟨0⟩)
  have hstale : Event.requested ⟨0⟩ ∈ [Event.requested ⟨0⟩] := List.mem_singleton_self _
  refine ⟨hq, h, by decide, ?_⟩
  exact (shownGrid_invoke_eq_iff none 1 (by decide) .start hq h).mpr (.inl (.inr (.inr hstale)))

/-- The switch of the first screen is held while the second screen is shown, and then takes the
page away from it. -/
theorem late_switch_overwrites :
    let t := (showWithTransition ⟨0⟩ 1 heldSwitches).2
    let v := (showScreen ⟨1⟩ t).2
    t.state.pending = [heldSwitches.state.nextSwitch ⟨0⟩] ∧
      (showScreen ⟨1⟩ t).1 = .ok () ∧ v.state.shownGrid = some ⟨1⟩ ∧
      (invoke (heldSwitches.state.nextSwitch ⟨0⟩) v).2.state.shownGrid = some ⟨0⟩ := by
  refine ⟨?_, ?_, ?_, ?_⟩
  · decide
  · rfl
  · decide
  · decide

end ScreenDeck.Deck
