import ScreenDeck.Proofs.Contents
import ScreenDeck.Proofs.PageBars

/-! What screens answer when they are asked whether they are shown. A screen without a parent says so
of the content of the page, and that is the grid of at most one screen. -/

namespace ScreenDeck

namespace Deck

open Act (Keeps OnState)

variable {d e : Deck} {es : List Event} {v : Option Event} {s t : Scene Deck} {r q : Ref .screen}
  {x y : Screen} {log : List PageEntry}

/-! Each screen has a grid of its own. -/

def ownGrids (d : Deck) : List (Ref .grid) := d.screens.items.map (·.grid)

theorem getElem?_ownGrids (h : d.screens.get? r = some x) : d.ownGrids[r.index]? = some x.grid := by
  have hi : d.screens.items[r.index]? = some x := h
  simp [ownGrids, hi]

theorem ownGrids_modifyScreen (d : Deck) (r : Ref .screen) {f : Screen → Screen}
    (hf : ∀ x, (f x).grid = x.grid) : (d.modifyScreen r f).ownGrids = d.ownGrids := by
  apply List.ext_getElem?
  intro i
  simp only [ownGrids, modifyScreen, Store.modify, List.getElem?_map, List.getElem?_modify]
  cases d.screens.items[i]? with
  | none => rfl
  | some y => by_cases hi : r.index = i <;> simp [hi, hf]

/-- No screen exchanges its grid, and a new one gets a grid that is made with it. -/
theorem Move.ownGrids (hm : Move d v e) : d.grids.size ≤ e.grids.size ∧
    (e.ownGrids = d.ownGrids ∨
      e.ownGrids = d.ownGrids ++ [⟨d.grids.size⟩] ∧ d.grids.size < e.grids.size) := by
  have hmade (g : Grid) : d.grids.size < (d.grids.add g).2.size := by simp [Store.size, Store.add]
  cases hm with
  | grid g hf => exact ⟨by simp [modifyGrid, Store.size, Store.modify], .inl rfl⟩
  | title r title => exact ⟨Nat.le_refl _, .inl (ownGrids_modifyScreen d r fun _ => rfl)⟩
  | parent r p => exact ⟨Nat.le_refl _, .inl (ownGrids_modifyScreen d r fun _ => rfl)⟩
  | bury r => exact ⟨Nat.le_refl _, .inl (ownGrids_modifyScreen d r fun _ => rfl)⟩
  | dispose r =>
    rw [release_eq]
    exact ⟨Nat.le_refl _, .inl (ownGrids_modifyScreen _ r fun _ => rfl)⟩
  | release x =>
    rw [release_eq]
    exact ⟨Nat.le_refl _, .inl rfl⟩
  | makeGrid => exact ⟨Nat.le_of_lt (hmade _), .inl rfl⟩
  | makeScreen handle =>
    refine ⟨Nat.le_of_lt (hmade _), .inr ⟨?_, hmade _⟩⟩
    exact List.map_append
  | makeWidget handle sharing => cases sharing <;> exact ⟨Nat.le_refl _, .inl rfl⟩
  | _ => exact ⟨Nat.le_refl _, .inl rfl⟩

structure GridsApart (d : Deck) : Prop where
  nodup : d.ownGrids.Nodup
  made : ∀ g ∈ d.ownGrids, g.index < d.grids.size

theorem GridsApart.move (h : d.GridsApart) (hm : Move d v e) : e.GridsApart := by
  obtain ⟨hle, he | ⟨he, hlt⟩⟩ := hm.ownGrids
  · refine ⟨he ▸ h.nodup, fun g hg => ?_⟩
    rw [he] at hg
    exact Nat.lt_of_lt_of_le (h.made g hg) hle
  · have hfresh : (⟨d.grids.size⟩ : Ref .grid) ∉ d.ownGrids := by
      intro hmem
      have hlt := h.made _ hmem
      simp at hlt
    constructor
    · rw [he, List.nodup_append]
      refine ⟨h.nodup, by simp, fun g hg k hk hgk => ?_⟩
      obtain rfl := List.mem_singleton.mp hk
      exact hfresh (hgk ▸ hg)
    · intro g hg
      rw [he, List.mem_append, List.mem_singleton] at hg
      rcases hg with hg | rfl
      · exact Nat.lt_trans (h.made g hg) hlt
      · exact hlt

theorem GridsApart.history (h : d.GridsApart) (hh : History d es e) : e.GridsApart := by
  induction hh with
  | start => exact h
  | move _ hm ih => exact ih.move hm

theorem GridsApart.unique (h : d.GridsApart) (hr : d.screens.get? r = some x)
    (hq : d.screens.get? q = some y) (hg : x.grid = y.grid) : r = q := by
  have hri := getElem?_ownGrids hr
  have hqi := getElem?_ownGrids hq
  rw [← hg, ← hri] at hqi
  obtain ⟨hlt, -⟩ := List.getElem?_eq_some_iff.mp hri
  have hindex : r.index = q.index := (List.getElem?_inj hlt h.nodup).mp hqi.symm
  cases r
  cases q
  exact congrArg Ref.mk hindex

theorem History.prefix_ownGrids (h : History d es e) : d.ownGrids <+: e.ownGrids := by
  induction h with
  | start => exact List.prefix_rfl
  | move _ hm ih =>
    obtain ⟨-, he | ⟨he, -⟩⟩ := hm.ownGrids
    · rwa [he]
    · rw [he]
      exact ih.trans (List.prefix_append _ _)

theorem History.grid_eq (h : History d es e) (hr : d.screens.get? r = some x)
    (hr' : e.screens.get? r = some y) : y.grid = x.grid := by
  obtain ⟨more, hmore⟩ := h.prefix_ownGrids
  have hri := getElem?_ownGrids hr
  obtain ⟨hlt, -⟩ := List.getElem?_eq_some_iff.mp hri
  have hri' := getElem?_ownGrids hr'
  rw [← hmore, List.getElem?_append_left hlt, hri] at hri'
  exact (Option.some.inj hri').symm

/-! Asking. -/

/-- The answer of a screen with this grid that has no parent. -/
def answer (d : Deck) (g : Ref .grid) : Except Abort Bool :=
  match d.faults .pageContent, d.content? with
  | .pass, some content => .ok (decide (content = some g))
  | _, _ => .error (d.pageRefusal .pageContent)

/-- Asking leaves nothing behind, not even a notice. -/
theorem isCurrentContent_apply (p : Ref .presenter) (s : Scene Deck) :
    isCurrentContent p s = (s.state.answer (s.state.presenters.get p).grid, s) := by
  have hcontent : pageContent s = (match s.state.faults .pageContent, s.state.content? with
      | .pass, some content => .ok content
      | _, _ => .error (s.state.pageRefusal .pageContent), s) := by
    rw [pageContent, Act.bind_apply, consult_apply]
    cases hf : s.state.faults .pageContent <;> cases hp : s.state.page <;>
      simp [content?, pageRefusal, hf, hp, activePage, Act.bind_apply, Act.state_apply, Act.fail_apply,
        Act.pure_apply]
  rw [isCurrentContent, Act.bind_apply, hcontent, answer]
  cases s.state.faults .pageContent <;> cases s.state.content? <;> rfl

theorem isShown_apply (hr : s.state.screens.get? r = some x) (hp : x.parent = none) :
    isShown r s = isCurrentContent x.presenter s := by
  have hget := Store.get_of_get? hr
  have hparent : parent r s = (.ok none, s) := by
    rw [parent, Act.bind_apply_ok (Act.state_apply s), hget, hp]
    rfl
  rw [isShown, Act.bind_apply_ok hparent, Act.bind_apply_ok (Act.state_apply s), hget]

theorem isShown_snd (r : Ref .screen) (s : Scene Deck) : (isShown r s).2 = s := by
  rw [isShown, Act.bind_apply]
  obtain ⟨e, hparent⟩ | hparent := parent_cases r s
  · rw [hparent]
  rw [hparent]
  dsimp only
  rw [Act.bind_apply_ok (Act.state_apply s)]
  rcases (s.state.screens.get r).parent with _ | (k | k | k)
  · exact congrArg Prod.snd (isCurrentContent_apply _ s)
  · dsimp only
    split <;> rfl
  · rfl
  · rfl

theorem isShown_eq (h : s.state.OwnGrids) (hr : s.state.screens.get? r = some x)
    (hp : x.parent = none) : isShown r s = (s.state.answer x.grid, s) := by
  obtain ⟨y, hy, hg⟩ := h r x hr
  rw [isShown_apply hr hp, isCurrentContent_apply, Store.get_of_get? hy, hg]

theorem answer_eq_true_iff {g : Ref .grid} (hf : d.faults .pageContent = .pass) :
    d.answer g = .ok true ↔ d.shownGrid = some g := by
  rw [answer, hf, shownGrid_eq]
  cases d.content? <;> simp

theorem shownGrid_of_answer {g : Ref .grid} (h : d.answer g = .ok true) : d.shownGrid = some g := by
  have hf : d.faults .pageContent = .pass := by
    cases hf : d.faults .pageContent with
    | pass => rfl
    | refuse | panic => simp [answer, hf] at h
  exact (answer_eq_true_iff hf).mp h

def SameAnswers (s t : Scene Deck) : Prop :=
  ∀ r x y, s.state.screens.get? r = some x → t.state.screens.get? r = some y →
    x.parent = none → y.parent = none →
    t.state.faults .pageContent = s.state.faults .pageContent →
      (isShown r t).1 = (isShown r s).1

theorem sameAnswers_of_content? (hs : s.state.OwnGrids) (hst : Evolves s.state t.state)
    (hc : t.state.content? = s.state.content?) : SameAnswers s t := by
  intro r x y hx hy hxp hyp hf
  obtain ⟨es, hh⟩ := evolves_iff.mp hst
  have hpage : t.state.page.isSome = s.state.page.isSome := by
    rw [← isSome_content?, hc, isSome_content?]
  rw [isShown_eq hs hx hxp, isShown_eq (hs.history hh) hy hyp, hh.grid_eq hx hy]
  simp only [answer, pageRefusal, hf, hc]

theorem Untouched.evolves (h : Untouched d e) : Evolves d e := by
  obtain ⟨es, h, -⟩ := h
  exact ⟨es, h, fun _ _ => trivial⟩

theorem Presentation.evolves (z : Presentation) (s : Scene Deck) :
    Evolves s.state (z.perform s).2.state := by
  have hadmits : ∀ v : Event, v.Presents → Admits Evolves v := fun v _ => admits_evolves v
  cases z with
  | present p bar => exact (composed_present hadmits p bar).keeps s
  | transition p bar kind => exact (composed_presentWithTransition hadmits p bar kind).keeps s
  | screen r => exact (composed_showScreen hadmits r).keeps s
  | screenTransition r kind => exact (composed_showWithTransition hadmits r kind).keeps s

end Deck

namespace Session

open Deck
open Act (Keeps OnState)

variable {step : Step} {v : Event} {s : Scene Deck} {setup : Setup} {start : Scene Deck}

def Step.leavesContent : Step → Bool
  | .openPage | .closePage | .setPageContent _ | .switch _ .invoke => false
  | .onScreen _ .present | .onScreen _ (.transition _) => false
  | .onScreen _ .enable | .onScreen _ (.visible _) => false
  | .onPresenter _ (.present _) | .onPresenter _ (.transition _ _) => false
  | _ => true

theorem Step.Causes.fills (h : step.Causes v) (hv : v.Fills) : step.leavesContent = false := by
  cases step with
  | openPage | closePage | setPageContent grid => rfl
  | resize size =>
    obtain rfl := h
    exact hv.elim
  | setPageBar bar =>
    obtain ⟨b, rfl⟩ := h
    exact hv.elim
  | notify raw | trackerHandle name raw =>
    obtain ⟨-, size, rfl⟩ := h
    exact hv.elim
  | switch position x =>
    cases x with
    | invoke => rfl
    | _ => exact h.elim
  | onScreen name x =>
    cases x with
    | present | transition | enable | visible => rfl
    | setProperty | removeMenu =>
      obtain ⟨b, rfl⟩ := h
      exact hv.elim
    | rotate raw =>
      obtain ⟨-, size, rfl⟩ := h
      exact hv.elim
    | _ => exact h.elim
  | onPresenter name x =>
    cases x with
    | current => exact h.elim
    | _ => rfl
  | _ => exact h.elim

theorem Step.leavesContent.admits (h : step.leavesContent = true) (hv : step.Causes v) :
    Admits Untouched v := by
  refine admits_untouched fun hfills => ?_
  rw [hv.fills hfills] at h
  cases h

theorem becomes_performOnScreen (r : Ref .screen) {name : String} {x : ScreenStep}
    (h : (Step.onScreen name x).leavesContent = false) :
    Keeps (OnState Becomes) (performOnScreen r x) := by
  cases x with
  | present => exact keeps_outcome (keeps_done (keeps_showScreen r))
  | transition kind => exact keeps_outcome (keeps_done (keeps_showWithTransition r kind))
  | enable => exact keeps_outcome (keeps_done (becomes_enableBar r))
  | visible value => exact keeps_outcome (keeps_done (becomes_setBarVisible r value))
  | _ => cases h

/-- Whatever a step does to the content of the page can be told as a series of calls. -/
theorem becomes_perform (step : Step) : Keeps (OnState Becomes) (perform step) := by
  cases hl : step.leavesContent with
  | true => exact fun s => Untouched.becomes (keeps_perform (fun v hv => Step.leavesContent.admits hl hv) s)
  | false =>
    cases step with
    | openPage => exact fun s => ⟨_, Course.start.openPage⟩
    | closePage => exact fun s => ⟨_, Course.start.closePage⟩
    | setPageContent grid =>
      exact keeps_named fun g => keeps_outcome (keeps_done (keeps_setPageContent g))
    | switch position x =>
      cases x with
      | invoke =>
        refine Keeps.state.bind fun d => ?_
        cases d.pending[position]? with
        | none => exact Keeps.pure _
        | some y =>
          exact (keeps_of_untouched (composed_dropSwitch position)).bind fun _ =>
            keeps_outcome ((keeps_invoke y).bind fun _ => Keeps.pure _)
      | _ => cases hl
    | onScreen name x => exact keeps_named fun r => becomes_performOnScreen r hl
    | onPresenter name x =>
      cases x with
      | present bar =>
        exact keeps_named fun p => keeps_withView
          (keeps_namedBar fun b => keeps_outcome (keeps_done (keeps_present p b))) _
      | transition bar kind =>
        exact keeps_named fun p => keeps_withView
          (keeps_namedBar fun b => keeps_outcome (keeps_done (keeps_presentWithTransition p b kind))) _
      | current => cases hl
    | _ => cases hl

theorem becomes_observeAll (steps : List (Via × Step)) (s : Scene Deck) :
    Becomes s.state (observeAll steps s).2.state := by
  have hlook (step : Step) (reply : Reply) : Keeps (OnState Becomes) (look step reply) :=
    keeps_of_untouched (composed_look step reply)
  exact keeps_observeAll (fun x _ => keeps_observe_of x.1 (becomes_perform x.2) (hlook x.2)) s

structure AnswersByContent (log : List PageEntry) (s : Scene Deck) : Prop where
  asking : ∀ r, (isShown r s).2 = s
  alone : ∀ {r q x y}, s.state.screens.get? r = some x → s.state.screens.get? q = some y →
    x.parent = none → y.parent = none →
    (isShown r s).1 = .ok true → (isShown q s).1 = .ok true → r = q
  shown : ∀ {r x}, s.state.screens.get? r = some x → x.parent = none →
    s.state.faults .pageContent = .pass → s.state.page.isSome →
    ∃ b, (isShown r s).1 = .ok b ∧ (b = true ↔ lastPut log = some x.grid)
  pageless : ∀ {r x}, s.state.screens.get? r = some x → x.parent = none →
    s.state.faults .pageContent = .pass → s.state.page = none →
    (isShown r s).1 = .error (.failed (.invalidState .noActivePage))
  /-- Rotations, what is done with children, disposal and much else. -/
  stepping : ∀ via {step : Step}, step.leavesContent = true → SameAnswers s (observe via step s).2
  failing : ∀ (x : Presentation) {e}, (x.perform s).1 = .error e → SameAnswers s (x.perform s).2
  stale : ∀ x, (invoke x s).1 ≠ .ok true → SameAnswers s (invoke x s).2
  barring : ∀ {r} value, ¬ s.state.CallsBack r →
    SameAnswers s (setBarVisible r value s).2 ∧ SameAnswers s (enableBar r s).2

theorem start_alone (h : setup.start = .ok start) :
    start.state.OwnGrids ∧ start.state.GridsApart ∧ start.state.shownGrid = none := by
  obtain ⟨-, hscreens⟩ := start_state h
  refine ⟨fun q y hq => ?_, ⟨?_, ?_⟩, ?_⟩
  · rw [hscreens] at hq
    cases hq
  · rw [ownGrids, hscreens]
    exact List.nodup_nil
  · intro g hg
    rw [ownGrids, hscreens] at hg
    cases hg
  · obtain ⟨settings, -, rfl⟩ := start_eq_ok h
    unfold Setup.deck
    cases setup.withPage <;> rfl

/-- The answers depend on the content of the page alone, and the content on the last call that put one
there. -/
theorem answersByContent {log : List PageEntry} (hc : s.state.shownGrid = lastPut log)
    (ho : s.state.OwnGrids) (hg : s.state.GridsApart) : AnswersByContent log s where
  asking r := isShown_snd r s
  alone {r q x y} hr hq hx hy hrs hqs := by
    rw [isShown_eq ho hr hx] at hrs
    rw [isShown_eq ho hq hy] at hqs
    have hshown := (shownGrid_of_answer hrs).symm.trans (shownGrid_of_answer hqs)
    exact hg.unique hr hq (Option.some.inj hshown)
  shown {r x} hr hx hf hp := by
    rw [isShown_eq ho hr hx, ← hc, ← answer_eq_true_iff hf]
    obtain ⟨content, hcontent⟩ := Option.isSome_iff_exists.mp (isSome_content? s.state ▸ hp)
    have hanswer : s.state.answer x.grid = .ok (decide (content = some x.grid)) := by
      rw [answer, hf, hcontent]
    rw [hanswer]
    exact ⟨_, rfl, by simp⟩
  pageless {r x} hr hx hf hp := by
    rw [isShown_eq ho hr hx]
    simp [answer, pageRefusal, content?, hf, hp]
  stepping via {step} hl := by
    have hkeeps : Untouched s.state (observe via step s).2.state :=
      keeps_observe via (fun v hv => Step.leavesContent.admits hl hv) s
    exact sameAnswers_of_content? ho hkeeps.evolves hkeeps.content?
  failing x {e} he := sameAnswers_of_content? ho (x.evolves s) (x.keepsOnError s e he)
  stale x hx := by
    have hkeeps : Evolves s.state (invoke x s).2.state :=
      (composed_invoke fun g => admits_evolves _).keeps s
    have hputs := puts_invoke x s
    refine sameAnswers_of_content? ho hkeeps ?_
    rw [Puts] at hputs
    rcases hr : (invoke x s).1 with e | b
    · rwa [hr] at hputs
    · have hb : b = false := by
        cases b with
        | false => rfl
        | true => exact absurd hr hx
      rwa [hr, hb] at hputs
  barring {r} value hr := by
    have hset := untouched_setBarVisible value hr
    have henable := untouched_enableBar hr
    exact ⟨sameAnswers_of_content? ho hset.evolves hset.content?,
      sameAnswers_of_content? ho henable.evolves henable.content?⟩

/-- In every session, and whatever else is done with its deck, the answers go by what was put on the
page last. A container that shows a screen in return when it is told of its bar puts it there as
anybody else does. -/
theorem answers_by_lastPut (h : setup.start = .ok start) :
    (∀ steps, ∃ log, Course start.state log (observeAll steps start).2.state) ∧
      ∀ {log} {s : Scene Deck}, Course start.state log s.state → AnswersByContent log s := by
  obtain ⟨ho, hg, hshown⟩ := start_alone h
  refine ⟨fun steps => becomes_observeAll steps start, fun {log s} hs => ?_⟩
  obtain ⟨es, hh⟩ := evolves_iff.mp hs.evolves
  exact answersByContent (hs.shownGrid hshown) (ho.history hh) (hg.history hh)

theorem eq_ok_of_toOption {α : Type} {r : Except Abort α} {a : α} (h : r.toOption = some a) :
    r = .ok a := by
  cases r with
  | error e => cases h
  | ok b => exact congrArg Except.ok (Option.some.inj h)

def twoScreens : Scene Deck :=
  { newSession with state := (makeScreen ⟨2⟩ (makeScreen ⟨1⟩ newSession.state).2).2 }

def firstShown : Scene Deck := ((ContentCall.present ⟨0⟩ none).perform twoScreens).2

def secondShown : Scene Deck := ((ContentCall.present ⟨1⟩ none).perform firstShown).2

theorem course_secondShown :
    Course newSession.state [.called ⟨0⟩ (.ok true), .called ⟨1⟩ (.ok true)] secondShown.state := by
  have hscreens : Untouched newSession.state twoScreens.state :=
    (EvolvesBy.quiet (.makeScreen ⟨1⟩)).trans (.quiet (.makeScreen ⟨2⟩))
  have hfirst := (Course.start.aside hscreens).call (s := twoScreens) (.present ⟨0⟩ none)
  have hboth := hfirst.call (s := firstShown) (.present ⟨1⟩ none)
  have hgrids : (ContentCall.present ⟨0⟩ none).grid twoScreens.state = ⟨0⟩ ∧
      (ContentCall.present ⟨1⟩ none).grid firstShown.state = ⟨1⟩ := by decide +kernel
  have hok : ((ContentCall.present ⟨0⟩ none).perform twoScreens).1 = .ok true :=
    eq_ok_of_toOption (by decide +kernel)
  have hok' : ((ContentCall.present ⟨1⟩ none).perform firstShown).1 = .ok true :=
    eq_ok_of_toOption (by decide +kernel)
  rw [hok, hok', hgrids.1, hgrids.2] at hboth
  exact hboth

theorem second_screen_answers :
    AnswersByContent [.called ⟨0⟩ (.ok true), .called ⟨1⟩ (.ok true)] secondShown ∧
      (isShown ⟨0⟩ secondShown).1 = .ok false ∧ (isShown ⟨1⟩ secondShown).1 = .ok true := by
  have hanswers := (answers_by_lastPut start_newSession).2 course_secondShown
  have hscreen (r : Ref .screen) (g : Ref .grid)
      (h : (secondShown.state.screens.get? r).map (fun x => (x.parent, x.grid)) = some (none, g)) :
      ∃ b, (isShown r secondShown).1 = .ok b ∧ (b = true ↔ some ⟨1⟩ = some g) := by
    obtain ⟨x, hx, he⟩ := Option.map_eq_some_iff.mp h
    obtain ⟨hparent, rfl⟩ := Prod.mk.inj he
    exact hanswers.shown hx hparent (by decide +kernel) (by decide +kernel)
  obtain ⟨a, ha, hfirst⟩ := hscreen ⟨0⟩ ⟨0⟩ (by decide +kernel)
  obtain ⟨b, hb, hsecond⟩ := hscreen ⟨1⟩ ⟨1⟩ (by decide +kernel)
  have hnot : a = false := by simpa using hfirst
  exact ⟨hanswers, hnot ▸ ha, hsecond.mpr rfl ▸ hb⟩

/-- The container holds the second screen, and the page shows the first. -/
def beforeBar : Scene Deck :=
  (observeAll ([.container "c" ⟨9⟩ .shows, .openScreen "a" ⟨1⟩, .openScreen "b" ⟨2⟩,
    .onScreen "b" (.parent "c"), .onScreen "a" .present].map (Via.direct, ·)) newSession).2

def afterBar : Scene Deck := (observe .direct (.onScreen "b" (.visible true)) beforeBar).2

/-- The bar of the second screen is made visible, and the first screen no longer shows. -/
theorem bar_of_second_screen_hides_first :
    (isShown ⟨0⟩ beforeBar).1 = .ok true ∧ (isShown ⟨0⟩ afterBar).1 = .ok false ∧
      ¬ SameAnswers beforeBar afterBar := by
  have hbefore : (isShown ⟨0⟩ beforeBar).1 = .ok true := eq_ok_of_toOption (by decide +kernel)
  have hafter : (isShown ⟨0⟩ afterBar).1 = .ok false := eq_ok_of_toOption (by decide +kernel)
  have hparents : (beforeBar.state.screens.get? ⟨0⟩).map (·.parent) = some none ∧
      (afterBar.state.screens.get? ⟨0⟩).map (·.parent) = some none := by decide +kernel
  have hfaults : afterBar.state.faults .pageContent = beforeBar.state.faults .pageContent := by
    decide +kernel
  obtain ⟨x, hx, hxp⟩ := Option.map_eq_some_iff.mp hparents.1
  obtain ⟨y, hy, hyp⟩ := Option.map_eq_some_iff.mp hparents.2
  refine ⟨hbefore, hafter, fun hsame => ?_⟩
  have hanswer := hsame ⟨0⟩ x y hx hy hxp hyp hfaults
  rw [hbefore, hafter] at hanswer
  cases hanswer

end Session
end ScreenDeck
