import ScreenDeck.Proofs.Contents
import ScreenDeck.Proofs.LateSwitches
import ScreenDeck.Proofs.PlainEvaluation

/-! Generations. A presenter counts a request before it does any work for it, so a request that fails
counts as well, and a switch has the number of the request that made it. That number decides how the
switch answers, whenever it is invoked. -/

namespace ScreenDeck.Deck

open ScreenDeck.Action (Place Fits)

variable {p : Ref .presenter} {s t u : Scene Deck} {x : Presenter} {n : Nat}

def Presentation.presenter (d : Deck) : Presentation → Ref .presenter
  | .present p _ => p
  | .transition p _ _ => p
  | .screen r => (d.screens.get r).presenter
  | .screenTransition r _ => (d.screens.get r).presenter

/-- However a request ends, it has been counted. -/
theorem Presentation.presenters_perform (a : Presentation) (s : Scene Deck) :
    (a.perform s).2.state.presenters = (s.state.request (a.presenter s.state)).presenters := by
  cases a with
  | present p bar => exact presenters_present p bar s
  | transition p bar kind => exact presenters_presentWithTransition p bar kind s
  | screen r =>
    rw [perform, showScreen_state]
    exact presenters_present _ _ s
  | screenTransition r kind =>
    rw [perform, showWithTransition_state]
    exact presenters_presentWithTransition _ _ kind s

theorem presenters_invoke (y : Switch) (s : Scene Deck) :
    (invoke y s).2.state.presenters = s.state.presenters := by
  rw [invoke_state]
  split <;> rfl

/-- A run in which a presenter is asked so many times. The work for a request begins when the request
has been counted. Switches of any presenter are invoked, and whatever else happens, also while there is
work, leaves the presenter alone. -/
inductive AskedFor (p : Ref .presenter) (s : Scene Deck) : Nat → Scene Deck → Prop
  | start : AskedFor p s 0 s
  | ask {n : Nat} {t : Scene Deck} (h : AskedFor p s n t) (a : Presentation)
      (ha : a.presenter t.state = p) : AskedFor p s (n + 1) (a.perform t).2
  | counted {n : Nat} {t : Scene Deck} (h : AskedFor p s n t) :
      AskedFor p s (n + 1) { t with state := t.state.request p }
  | invoke {n : Nat} {t : Scene Deck} (h : AskedFor p s n t) (y : Switch) :
      AskedFor p s n (Deck.invoke y t).2
  | aside {n : Nat} {t u : Scene Deck} (h : AskedFor p s n t)
      (hu : u.state.presenters.get? p = t.state.presenters.get? p) : AskedFor p s n u

/-- The generation goes up with each request of the presenter and with nothing else. -/
theorem AskedFor.presenter (h : AskedFor p s n t) (hx : s.state.presenters.get? p = some x) :
    t.state.presenters.get? p = some (x.asked n) := by
  have asked_again {n : Nat} {d : Deck} (hd : d.presenters.get? p = some (x.asked n)) :
      (d.request p).presenters.get? p = some (x.asked (n + 1)) := by
    rw [get?_request_self, hd, ← Presenter.asked_asked]
    rfl
  induction h with
  | start => exact hx
  | ask _ a ha ih =>
    rw [a.presenters_perform, ha]
    exact asked_again ih
  | counted _ ih => exact asked_again ih
  | invoke _ y ih =>
    rw [presenters_invoke]
    exact ih
  | aside _ hu ih => rw [hu, ih]

theorem invoke_cases (y : Switch) (hs : s.context.Serves) :
    let r := (invoke y s).1
    let d := (invoke y s).2.state
    (s.state.isCurrent y ≠ true ∧ r = .ok false ∧ d = s.state) ∨
      (s.state.isCurrent y = true ∧ s.state.Takes .setPageContent ∧ r = .ok true ∧
        d = s.state.fillPage (s.state.presenters.get y.presenter).grid) ∨
      (s.state.isCurrent y = true ∧ ¬ s.state.Takes .setPageContent ∧
        (∃ f, r = .error (.failed f)) ∧ d = s.state) := by
  intro r d
  have hr : r = _ := invoke_fst hs y
  have hd : d = _ := invoke_state y s
  by_cases hc : s.state.isCurrent y = true
  · by_cases ht : s.state.Takes .setPageContent
    · rw [if_pos hc, if_pos ht] at hr
      rw [if_pos ⟨hs, hc, ht⟩] at hd
      exact .inr (.inl ⟨hc, ht, hr, hd⟩)
    · rw [if_pos hc, if_neg ht] at hr
      rw [if_neg fun h => ht h.2.2] at hd
      obtain ⟨f, hf⟩ := containment_pageRefusal Bool s.state .setPageContent
      exact .inr (.inr ⟨hc, ht, ⟨f, hr.trans hf⟩, hd⟩)
  · rw [if_neg hc] at hr
    rw [if_neg fun h => hc h.2.1] at hd
    exact .inl ⟨hc, hr, hd⟩

/-- How a switch answers, and what it leaves, at a scene where its presenter has had a later request or
not. -/
structure AnswersFor (y : Switch) (g : Ref .grid) (later : Prop) (u : Scene Deck) : Prop where
  current : u.state.isCurrent y = true ↔ ¬ later
  superseded : u.context.running = true → ((invoke y u).1 = .ok false ↔ later)
  switched : u.context.running = true →
    ((invoke y u).1 = .ok true ↔ ¬ later ∧ u.state.Takes .setPageContent)
  failed : u.context.running = true → ¬ later → ¬ u.state.Takes .setPageContent →
    ∃ f, (invoke y u).1 = .error (.failed f)
  stopped : u.context.running = false → (invoke y u).1 = .error (.failed (.dispatch .stopped))
  shown : (invoke y u).1 = .ok true →
    (invoke y u).2.state = u.state.fillPage g ∧ (invoke y u).2.state.shownGrid = some g
  unchanged : (invoke y u).1 ≠ .ok true → (invoke y u).2.state = u.state

/-- An answer depends on the flag, on whether there was a later request, and on the host. -/
theorem answersFor {y : Switch} {g : Ref .grid} {later : Prop} {place : Place}
    (hy : u.state.isCurrent y = true ↔ ¬ later) (hg : (u.state.presenters.get y.presenter).grid = g)
    (hu : Fits u.context place) (hp : place ≠ .helper) : AnswersFor y g later u := by
  cases hrun : u.context.running with
  | false =>
    have hr : (invoke y u).1 = .error (.failed (.dispatch .stopped)) := by
      rw [invoke_apply, Act.runSync_apply_of_stopped hrun]
    have hd : (invoke y u).2.state = u.state := by
      rw [invoke_state, if_neg fun h => Bool.false_ne_true (hrun.symm.trans h.1.1)]
    exact ⟨hy, by simp [hrun], by simp [hrun], by simp [hrun], fun _ => hr, by simp [hr], fun _ => hd⟩
  | true =>
    obtain ⟨hc, hr, hd⟩ | ⟨hc, ht, hr, hd⟩ | ⟨hc, ht, ⟨f, hr⟩, hd⟩ := invoke_cases y (hu.serves hp hrun)
    · have hl : later := Classical.not_not.mp fun h => hc (hy.mpr h)
      exact ⟨hy, by simp [hr, hl], by simp [hr, hl], by simp [hl], by simp [hrun], by simp [hr],
        fun _ => hd⟩
    · have hl := hy.mp hc
      rw [hg] at hd
      have hshown : (invoke y u).2.state.shownGrid = some g := by rw [hd, shownGrid_fillPage ht.2]
      exact ⟨hy, by simp [hr, hl], by simp [hr, hl, ht], by simp [ht], by simp [hrun],
        fun _ => ⟨hd, hshown⟩, by simp [hr]⟩
    · have hl := hy.mp hc
      exact ⟨hy, by simp [hr, hl], by simp [hr, ht], fun _ _ _ => ⟨f, hr⟩, by simp [hrun], by simp [hr],
        fun _ => hd⟩

/-- The generation of a presenter is the number of its requests. The switch of a request has the number
of the request, and answers by whether the presenter has been asked again since. -/
theorem switches_answer_by_generation (hx : s.state.presenters.get? p = some x)
    (hnew : x.generation = 0) (h : AskedFor p s n t) :
    (t.state.presenters.get p).generation = n ∧
      (∀ bar kind, presentWithTransition p bar kind t = (do
        Act.runSync (showSwitch x.engine bar kind ⟨p, n + 1⟩)
        Act.note .transitionStarted : Do Unit) { t with state := t.state.request p }) ∧
      ∀ k place, k ≤ n → Fits t.context place → place ≠ .helper →
        AnswersFor ⟨p, k⟩ x.grid (k < n) t := by
  have hp := h.presenter hx
  have hget := Store.get_of_get? hp
  have hgen : (t.state.presenters.get p).generation = n := by
    rw [hget, Presenter.asked, hnew, Nat.zero_add]
  refine ⟨hgen, fun bar kind => ?_, fun k place hk hc hplace => ?_⟩
  · have hnext := Store.get_of_get? (h.counted.presenter hx)
    have hy : t.state.nextSwitch p = ⟨p, n + 1⟩ := by
      rw [nextSwitch, hnext, Presenter.asked, hnew, Nat.zero_add]
    rw [presentWithTransition_apply, hy, hnext]
    rfl
  · refine answersFor ?_ (by rw [hget]; rfl) hc hplace
    have hk' : n = k ↔ ¬ k < n := by omega
    rw [isCurrent, hgen, decide_eq_true_iff]
    exact hk'

/-- The second of three requests finds no page. It counts, so the first switch is stale by then, and the
third one is not. -/
theorem held_switches_answer :
    let t := (presentWithTransition ⟨0⟩ none 1 heldSwitches).2
    let closed := { t with state := t.state.closePage.2 }
    let r := present ⟨0⟩ none closed
    let opened := { r.2 with state := r.2.state.openPage }
    let u := (presentWithTransition ⟨0⟩ none 2 opened).2
    r.1 = .error (.failed (.invalidState .noActivePage)) ∧ u.state.pending = [⟨⟨0⟩, 1⟩, ⟨⟨0⟩, 3⟩] ∧
      (u.state.presenters.get ⟨0⟩).generation = 3 ∧
      (invoke ⟨⟨0⟩, 1⟩ u).1 = .ok false ∧ (invoke ⟨⟨0⟩, 1⟩ u).2.state = u.state ∧
      (invoke ⟨⟨0⟩, 3⟩ u).1 = .ok true ∧ (invoke ⟨⟨0⟩, 3⟩ u).2.state.shownGrid = some ⟨0⟩ := by
  intro t closed r opened u
  have ht : AskedFor ⟨0⟩ heldSwitches 1 t := .ask .start (.transition ⟨0⟩ none 1) rfl
  have hr : AskedFor ⟨0⟩ heldSwitches 2 r.2 := .ask (.aside (u := closed) ht rfl) (.present ⟨0⟩ none) rfl
  have hu : AskedFor ⟨0⟩ heldSwitches 3 u := .ask (.aside (u := opened) hr rfl) (.transition ⟨0⟩ none 2) rfl
  obtain ⟨hgen, -, hanswers⟩ := switches_answer_by_generation rfl rfl hu
  have hc : Fits u.context .free := .inl rfl
  have hfirst := hanswers 1 .free (by decide) hc (by decide)
  have hthird := hanswers 3 .free (by decide) hc (by decide)
  have hstale := (hfirst.superseded rfl).mpr (by decide)
  have hswitched := (hthird.switched rfl).mpr ⟨by decide, by decide⟩
  refine ⟨rfl, by decide, hgen, hstale, hfirst.unchanged ?_, hswitched, (hthird.shown hswitched).2⟩
  simp [hstale]

end ScreenDeck.Deck
