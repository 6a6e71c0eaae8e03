import ScreenDeck.Proofs.ModesAgree
import ScreenDeck.Proofs.Notifications

/-! The size of the page. It is decided by the last rotation that was recognised, from the size that
the content had then, and by nothing that happened before. -/

namespace ScreenDeck

/-- How a page is laid out after a rotation, if the raw value is one of the six. -/
def rotated (raw : Int32) (content : Size) : Option Size :=
  if raw = 2 ∨ raw = 18 ∨ raw = 34 then some ⟨content.height, content.width⟩
  else if raw = 1 ∨ raw = 5 ∨ raw = 9 then some ⟨content.width, content.height⟩
  else none

theorem group_ofRaw (raw : Int32) (content : Size) :
    (DeviceOrientation.ofRaw raw).group.map (·.pageSize content) = rotated raw content := by
  unfold DeviceOrientation.ofRaw rotated
  repeat' split
  all_goals simp_all [DeviceOrientation.group, OrientationGroup.pageSize, Size.transposed]

theorem rotated_eq_none_iff {raw : Int32} {content : Size} :
    rotated raw content = none ↔ (DeviceOrientation.ofRaw raw).group = none := by
  rw [← group_ofRaw, Option.map_eq_none_iff]

namespace Deck

variable {d e : Deck} {device : DeviceOrientation}

def pageSize? (d : Deck) : Option Size := d.page.map (·.size)

def Event.Sizes : Event → Prop
  | .resized _ | .opened | .closed => True
  | .requested _ | .attached _ | .filled _ => False

theorem EvolvesBy.pageSize? (h : EvolvesBy (fun v => ¬ v.Sizes) d e) :
    e.pageSize? = d.pageSize? := by
  refine h.constant (p := Deck.pageSize?) fun {d e v} hm hv => ?_
  rw [Deck.pageSize?, hm.page]
  rcases v with _ | (_ | _ | _ | _ | _ | _)
  case some.resized | some.opened | some.closed => exact absurd trivial (hv _ rfl)
  all_goals simp [Deck.pageSize?, Event.onPage, Function.comp_def]

theorem pageSize?_told {handles : List Handle} (hn : handles ≠ []) (hp : d.page.isSome) :
    (d.told device handles).pageSize? =
      (device.group.map (·.pageSize d.contentSize)).or d.pageSize? := by
  obtain ⟨page, hp⟩ := Option.isSome_iff_exists.mp hp
  cases hg : device.group <;> simp [Deck.pageSize?, told, reflow, hn, hp, hg]

end Deck

namespace Session

open Deck
open ScreenDeck.Action (Fits)

variable {step : Step} {via : Via} {s : Scene Deck}

/-- The size that the step gives to an open page. -/
def decided (step : Step) (d : Deck) : Option Size :=
  match step with
  | .openPage => some d.contentSize
  | .notify raw =>
    if d.orientation.blocked = false ∧ (d.listening ≠ [] ∨ d.hearers d.attachedListeners ≠ []) then
      rotated raw d.contentSize
    else none
  | .onScreen name (.rotate raw) =>
    if (d.names.screens.lookup name).isSome then rotated raw d.contentSize else none
  | .trackerHandle name raw =>
    if (d.names.trackers.lookup name).isSome then rotated raw d.contentSize else none
  | _ => none

/-- The host does not take the page away, nor give it a size of its own. -/
def Step.leavesPage : Step → Bool
  | .closePage | .resize _ => false
  | _ => true

/-! What one step does to the size. -/

theorem pageSize?_observe_of_causes (h : ∀ v, step.Causes v → ¬ v.Sizes) (via : Via)
    (s : Scene Deck) : (observe via step s).2.state.pageSize? = s.state.pageSize? :=
  (keeps_observe (R := EvolvesBy fun v => ¬ v.Sizes) via
    (fun v hv => admits_evolvesBy (h v hv)) s).pageSize?

/-- Issuing a step and looking at what came of it do not matter. -/
theorem pageSize?_observe (hs : Fits s.context .free) (hx : step ≠ .servicesDebug)
    (hv : via = .ui → s.context.running = true) :
    (observe via step s).2.state.pageSize? = (perform step s.flat).2.state.pageSize? := by
  have hissue : (issue via step s).2.state = (perform step s.flat).2.state := by
    have hflat := congrArg Scene.state (tracks_issue hs hx hv).flat
    rw [issue_direct_apply, guarded_apply] at hflat
    exact hflat.symm
  rw [← hissue, observe_eq, Act.bind_apply]
  rcases issue via step s with ⟨r, t⟩
  rcases r with e | d | reply
  · rfl
  · rfl
  · have hlook : EvolvesBy (fun v => ¬ v.Sizes) t.state (look step reply t).2.state :=
      (composed_look (R := EvolvesBy fun v => ¬ v.Sizes) step reply).keeps t
    exact hlook.pageSize?

theorem perform_notify_snd (raw : Int32) (s : Scene Deck) :
    (perform (.notify raw) s).2 = (notifyOrientation (.ofRaw raw) s).2 := by
  have hperform : perform (.notify raw) = done (notifyOrientation (.ofRaw raw)) := rfl
  rw [hperform, done_snd]

theorem trackerHandle_apply (t : Ref .tracker) (device : DeviceOrientation) (s : Scene Deck) :
    trackerHandle t device s = handleOrientation (s.state.trackers.get t).handle device s := by
  rw [trackerHandle, Act.bind_apply_ok (Act.state_apply s)]

theorem rotate_apply (r : Ref .screen) (device : DeviceOrientation) (s : Scene Deck) :
    rotate r device s =
      handleOrientation (s.state.trackers.get (s.state.screens.get r).tracker).handle device s := by
  rw [rotate, Act.bind_apply_ok (Act.state_apply s), trackerHandle_apply]

theorem perform_rotate (name : String) (raw : Int32) : perform (.onScreen name (.rotate raw)) =
    named (·.screens) name fun r => outcome do return .text (← rotate r (.ofRaw raw)).name := rfl

theorem perform_rotate_snd {name : String} {r : Ref .screen} (raw : Int32)
    (h : s.state.names.screens.lookup name = some r) :
    (perform (.onScreen name (.rotate raw)) s).2 = (handleOrientation
      (s.state.trackers.get (s.state.screens.get r).tracker).handle (.ofRaw raw) s).2 := by
  rw [perform_rotate, named_apply_some h, outcome_snd, ← rotate_apply]
  exact replied_snd (rotate r (.ofRaw raw)) (fun o => .text o.name) s

theorem perform_trackerHandle (name : String) (raw : Int32) : perform (.trackerHandle name raw) =
    named (·.trackers) name fun t => outcome do return .text (← trackerHandle t (.ofRaw raw)).name :=
  rfl

theorem perform_trackerHandle_snd {name : String} {t : Ref .tracker} (raw : Int32)
    (h : s.state.names.trackers.lookup name = some t) :
    (perform (.trackerHandle name raw) s).2 =
      (handleOrientation (s.state.trackers.get t).handle (.ofRaw raw) s).2 := by
  rw [perform_trackerHandle, named_apply_some h, outcome_snd, ← trackerHandle_apply]
  exact replied_snd (trackerHandle t (.ofRaw raw)) (fun o => .text o.name) s

theorem pageSize?_of_handled {raw : Int32} {z : Size} (hs : s.context.running = true)
    (hfits : Fits s.context .free) (hf : s.state.LetsReflow) (hp : s.state.page.isSome)
    (hz : rotated raw s.state.contentSize = some z) (handle : Handle) :
    (handleOrientation handle (.ofRaw raw) s).2.state.pageSize? = some z := by
  have hheard : ¬ Silent (.ofRaw raw) s := by
    rintro (hnone | ⟨-, hstopped⟩)
    · simp [hnone] at hp
    · exact absurd (hs.symm.trans hstopped) nofun
  have hstate := handleOrientation_told hfits (by decide) (.ofRaw raw) hf handle
  rw [if_neg hheard] at hstate
  rw [hstate, pageSize?_told (by simp) hp, group_ofRaw, hz]
  rfl

/-- One listener is enough, and each further one lays the page out in the same way. -/
theorem pageSize?_of_notified {raw : Int32} {z : Size} (ha : Attended [] s.state)
    (hs : s.context.running = true) (hfits : Fits s.context .free) (hf : s.state.LetsReflow)
    (hp : s.state.page.isSome) (hb : s.state.orientation.blocked = false)
    (hn : s.state.listening ≠ [] ∨ s.state.hearers s.state.attachedListeners ≠ [])
    (hz : rotated raw s.state.contentSize = some z) :
    (notifyOrientation (.ofRaw raw) s).2.state.pageSize? = some z := by
  have hheard : ¬ Silent (.ofRaw raw) s := by
    rintro (hnone | ⟨-, hstopped⟩)
    · simp [hnone] at hp
    · exact absurd (hs.symm.trans hstopped) nofun
  obtain ⟨-, order, hperm, hstate⟩ :=
    ha.notifyOrientation (.ofRaw raw) hfits (by decide) hf hb
  rw [if_neg hheard] at hstate
  have horder : order ≠ [] := by
    intro he
    have hnone := List.append_eq_nil_iff.mp (List.nil_perm.mp (he ▸ hperm))
    rcases hn with hn | hn
    · exact hn (List.map_eq_nil_iff.mp hnone.1)
    · exact hn hnone.2
  rw [hstate, pageSize?_told horder hp, group_ofRaw, hz]
  rfl

/-- The step may be issued in any way, and by whichever of these means. -/
theorem pageSize?_of_decided {z : Size} (ha : Attended [] s.state) (hs : s.context.running = true)
    (hfits : Fits s.context .free) (hf : s.state.LetsReflow)
    (hp : step = .openPage ∨ s.state.page.isSome) (hz : decided step s.state = some z) :
    (observe via step s).2.state.pageSize? = some z := by
  have hx : step ≠ .servicesDebug := by
    rintro rfl
    cases hz
  rw [pageSize?_observe hfits hx fun _ => hs]
  have hflat : Fits s.flat.context .free := .inl rfl
  have hopen (h : step ≠ .openPage) : s.flat.state.page.isSome := hp.resolve_left h
  cases step with
  | openPage =>
    cases hz
    rfl
  | notify raw =>
    simp only [decided] at hz
    split at hz
    next hn =>
      rw [perform_notify_snd]
      exact pageSize?_of_notified (s := s.flat) ha hs hflat hf (hopen nofun) hn.1 hn.2 hz
    next => cases hz
  | onScreen name x =>
    cases x with
    | rotate raw =>
      simp only [decided] at hz
      split at hz
      next hn =>
        obtain ⟨r, hr⟩ := Option.isSome_iff_exists.mp hn
        rw [perform_rotate_snd (s := s.flat) raw hr]
        exact pageSize?_of_handled (s := s.flat) hs hflat hf (hopen nofun) hz _
      next => cases hz
    | _ => cases hz
  | trackerHandle name raw =>
    simp only [decided] at hz
    split at hz
    next hn =>
      obtain ⟨t, ht⟩ := Option.isSome_iff_exists.mp hn
      rw [perform_trackerHandle_snd (s := s.flat) raw ht]
      exact pageSize?_of_handled (s := s.flat) hs hflat hf (hopen nofun) hz _
    next => cases hz
  | _ => cases hz

/-- Those who listen make up the audience, unless the signal is blocked. -/
theorem audience_unheard (ha : Attended [] s.state)
    (h : ¬ (s.state.orientation.blocked = false ∧
      (s.state.listening ≠ [] ∨ s.state.hearers s.state.attachedListeners ≠ []))) :
    (∀ l ∈ s.state.orientation.audience, ∃ t, l = .tracker t) ∧
      s.state.hearers s.state.orientation.audience = [] := by
  cases hb : s.state.orientation.blocked with
  | true =>
    rw [Signal.audience_of_blocked hb]
    exact ⟨nofun, rfl⟩
  | false =>
    have haudience : s.state.orientation.audience = s.state.orientation.slots.values := by
      simp [Signal.audience, hb]
    obtain ⟨hlistening, hattached⟩ : s.state.listening = [] ∧
        s.state.hearers s.state.attachedListeners = [] := by simpa [hb] using h
    have hperm := ha.hearers_perm
    rw [hattached, screenHandles, hlistening] at hperm
    rw [haudience]
    exact ⟨fun l => ha.tracker_of_mem, List.perm_nil.mp hperm⟩

/-- Apart from the host, recognised rotations are the only ones to give the page a size. -/
theorem Step.Causes.sizes {v : Event} (h : step.Causes v) (hv : v.Sizes) :
    step = .openPage ∨ step = .closePage ∨ (∃ size, step = .resize size) ∨
      ∃ raw, (DeviceOrientation.ofRaw raw).group.isSome ∧ (step = .notify raw ∨
        ∃ name, step = .onScreen name (.rotate raw) ∨ step = .trackerHandle name raw) := by
  cases step with
  | openPage => exact .inl rfl
  | closePage => exact .inr (.inl rfl)
  | resize size => exact .inr (.inr (.inl ⟨size, rfl⟩))
  | notify raw => exact .inr (.inr (.inr ⟨raw, h.1, .inl rfl⟩))
  | trackerHandle name raw => exact .inr (.inr (.inr ⟨raw, h.1, .inr ⟨name, .inr rfl⟩⟩))
  | onScreen name x =>
    cases x with
    | rotate raw => exact .inr (.inr (.inr ⟨raw, h.1, .inr ⟨name, .inl rfl⟩⟩))
    | present | transition | enable | visible => cases v <;> first | exact h.elim | exact hv.elim
    | setProperty | removeMenu =>
      obtain ⟨b, rfl⟩ := h
      exact hv.elim
    | _ => exact h.elim
  | onPresenter name x =>
    cases x with
    | current => exact h.elim
    | _ => cases v <;> first | exact h.elim | exact hv.elim
  | setPageBar bar | setPageContent grid =>
    obtain ⟨_, rfl⟩ := h
    exact hv.elim
  | switch position x =>
    cases x with
    | invoke =>
      obtain ⟨g, rfl⟩ := h
      exact hv.elim
    | _ => exact h.elim
  | _ => exact h.elim

/-- A rotation that is not recognised, or that nobody hears of, leaves the size as it was. -/
theorem pageSize?_of_undecided (ha : Attended [] s.state) (hfits : Fits s.context .free)
    (hl : step.leavesPage = true) (hd : decided step s.state = none) :
    (observe via step s).2.state.pageSize? = s.state.pageSize? := by
  by_cases hstopped : via = .ui ∧ s.context.running = false
  · obtain ⟨rfl, hr⟩ := hstopped
    rw [observe_ui_of_stopped step hr]
  by_cases hcauses : ∀ v, step.Causes v → ¬ v.Sizes
  · exact pageSize?_observe_of_causes hcauses via s
  obtain ⟨v, hv, hsizes⟩ : ∃ v, step.Causes v ∧ v.Sizes := by simpa using hcauses
  -- A rotation that is recognised and decides nothing has met nobody.
  have hmissed {raw : Int32} {p : Prop} [Decidable p]
      (hnone : (if p then rotated raw s.state.contentSize else none) = none)
      (hg : (DeviceOrientation.ofRaw raw).group.isSome) : ¬ p := by
    intro hp
    rw [if_pos hp, rotated_eq_none_iff] at hnone
    simp [hnone] at hg
  have hperform (hx : step ≠ .servicesDebug) (h : (perform step s.flat).2.state = s.state) :
      (observe via step s).2.state.pageSize? = s.state.pageSize? := by
    rw [pageSize?_observe hfits hx fun hv => by simpa [hv] using hstopped, h]
  obtain rfl | rfl | ⟨size, rfl⟩ | ⟨raw, hg, rfl | ⟨name, rfl | rfl⟩⟩ := hv.sizes hsizes
  · cases hd
  · cases hl
  · cases hl
  · obtain ⟨htrackers, hnone⟩ := audience_unheard ha (hmissed hd hg)
    refine hperform nofun ?_
    rw [perform_notify_snd]
    exact notifyOrientation_unheard (s := s.flat) htrackers hnone
  · have hnone := Option.not_isSome_iff_eq_none.mp (hmissed hd hg)
    refine hperform nofun ?_
    rw [perform_rotate, named_apply_none (s := s.flat) hnone]
    rfl
  · have hnone := Option.not_isSome_iff_eq_none.mp (hmissed hd hg)
    refine hperform nofun ?_
    rw [perform_trackerHandle, named_apply_none (s := s.flat) hnone]
    rfl

/-! Whole sessions. -/

theorem fits_observe (hs : Fits s.context .free) (via : Via) (step : Step) :
    Fits (observe via step s).2.context .free :=
  (Level.observe ⟨rfl, hs, hs⟩ (v := via) (w := via) step fun _ => .rfl).2.1.left

theorem fits_observeAll {setup : Setup} {start : Scene Deck} (h : setup.start = .ok start)
    (steps : List (Via × Step)) : Fits (observeAll steps start).2.context .free := by
  obtain ⟨settings, -, rfl⟩ := start_eq_ok h
  have hfits := fits_new setup.mode
  exact (Level.observeAll (.refl false steps) ⟨rfl, hfits, hfits⟩ nofun).2.left

def Throughout (p : Step → Scene Deck → Prop) : List (Via × Step) → Scene Deck → Prop
  | [], _ => True
  | (via, step) :: steps, s => p step s ∧
    match observe via step s with
    | (.ok _, t) => Throughout p steps t
    | (.error _, _) => True

def Throughout.decide (p : Step → Scene Deck → Prop) [∀ step s, Decidable (p step s)] :
    (steps : List (Via × Step)) → (s : Scene Deck) → Decidable (Throughout p steps s)
  | [], _ => .isTrue trivial
  | (via, step) :: steps, s =>
    match h : observe via step s with
    | (.ok _, t) =>
      have := Throughout.decide p steps t
      decidable_of_iff (p step s ∧ Throughout p steps t) (by rw [Throughout, h])
    | (.error _, _) => decidable_of_iff (p step s) (by rw [Throughout, h]; simp)

instance (p : Step → Scene Deck → Prop) [∀ step s, Decidable (p step s)] (steps : List (Via × Step))
    (s : Scene Deck) : Decidable (Throughout p steps s) := Throughout.decide p steps s

/-- The page stays open, and whatever lays it out is free to do so. -/
def Undisturbed (step : Step) (s : Scene Deck) : Prop :=
  step.leavesPage = true ∧
    ((decided step s.state).isSome → s.context.running = true ∧ s.state.LetsReflow)

instance (step : Step) (s : Scene Deck) : Decidable (Undisturbed step s) :=
  inferInstanceAs (Decidable (_ ∧ _))

/-- The last size that a step has given to the page. -/
def lastDecided : List (Via × Step) → Scene Deck → Option Size
  | [], _ => none
  | (via, step) :: steps, s =>
    match observe via step s with
    | (.ok _, t) => (lastDecided steps t).or (decided step s.state)
    | (.error _, _) => decided step s.state

/-- A page is open, or about to be. -/
def HasPage (steps : List (Via × Step)) (s : Scene Deck) : Prop :=
  s.state.page.isSome ∨ ∃ via rest, steps = (via, .openPage) :: rest

theorem pageSize?_observe_or (ha : Attended [] s.state) (hfits : Fits s.context .free)
    (hp : step = .openPage ∨ s.state.page.isSome) (hu : Undisturbed step s) (via : Via) :
    (observe via step s).2.state.pageSize? = (decided step s.state).or s.state.pageSize? := by
  cases hd : decided step s.state with
  | none => exact pageSize?_of_undecided ha hfits hu.1 hd
  | some z =>
    obtain ⟨hs, hf⟩ := hu.2 (by rw [hd]; rfl)
    exact pageSize?_of_decided ha hs hfits hf hp hd

theorem isSome_pageSize? (d : Deck) : d.pageSize?.isSome = d.page.isSome := by
  simp [pageSize?]

theorem pageSize?_observeAll {steps : List (Via × Step)} (ha : Attended [] s.state)
    (hfits : Fits s.context .free) (hp : HasPage steps s) (hu : Throughout Undisturbed steps s) :
    (observeAll steps s).2.state.pageSize? = (lastDecided steps s).or s.state.pageSize? := by
  induction steps generalizing s with
  | nil => rfl
  | cons x steps ih =>
    obtain ⟨via, step⟩ := x
    have hopen : step = .openPage ∨ s.state.page.isSome := by
      rcases hp with hp | ⟨_, _, he⟩
      · exact .inr hp
      · exact .inl (Prod.ext_iff.mp (List.cons.inj he).1).2
    have hstep := pageSize?_observe_or ha hfits hopen hu.1 via
    have hattends := keeps_observe (R := Attends) via (fun v (_ : step.Causes v) => admits_attends v) s
    have hfits' := fits_observe hfits via step
    have hrest := hu.2
    rw [observeAll, lastDecided]
    rcases hr : observe via step s with ⟨r, t⟩
    rw [hr] at hstep hattends hfits' hrest
    cases r with
    | error e => exact hstep
    | ok o =>
      have hpage : t.state.page.isSome := by
        rw [← isSome_pageSize?, hstep, Option.isSome_or]
        rcases hopen with rfl | hopen
        · rfl
        · rw [isSome_pageSize?, hopen, Bool.or_true]
      have hlast := ih (hattends.attended ha) hfits' (.inl hpage) hrest
      have hor : (lastDecided steps t).or ((decided step s.state).or s.state.pageSize?) =
          ((lastDecided steps t).or (decided step s.state)).or s.state.pageSize? :=
        Option.or_assoc.symm
      exact hlast.trans (hstep ▸ hor)

/-- The page has the size that the last step to decide it has given it: that of the content when the
page was opened, or when a rotation was recognised, which lays it out for its group. What happened
before does not matter. -/
theorem pageSize_lastDecided {setup : Setup} {start : Scene Deck} (h : setup.start = .ok start)
    (pre post : List (Via × Step)) :
    let s := (observeAll pre start).2
    let t := (observeAll post s).2
    (setup.withPage = true → start.state.pageSize? = some setup.contentSize) ∧
      (HasPage post s → Throughout Undisturbed post s →
        t.state.pageSize? = (lastDecided post s).or s.state.pageSize?) := by
  intro s t
  refine ⟨fun hp => ?_, fun hp hu => ?_⟩
  · obtain ⟨settings, -, rfl⟩ := start_eq_ok h
    simp only [Setup.deck, hp, if_true]
    rfl
  · exact pageSize?_observeAll (attended_observeAll h pre) (fits_observeAll h pre) hp hu

def tall : Size := ⟨⟨0x43960000⟩, ⟨0x43fa0000⟩⟩

def taller : Size := ⟨⟨0x43960000⟩, ⟨0x44480000⟩⟩

/-- Two screens hear of each rotation. The last that is recognised is landscape, as was the first. -/
def turns : List (Via × Step) :=
  [.notify 34, .contentSize tall, .onScreen "b" (.rotate 2), .contentSize taller,
    .notify 77, .onScreen "a" .present].map (Via.direct, ·)

def bothListen : List (Via × Step) :=
  [.openScreen "a" ⟨1⟩, .openScreen "b" ⟨2⟩].map (Via.direct, ·)

theorem turns_lastDecided :
    let s := (observeAll bothListen newSession).2
    HasPage turns s ∧ Throughout Undisturbed turns s ∧
      lastDecided turns s = some ⟨⟨0x43fa0000⟩, ⟨0x43960000⟩⟩ ∧
      (observeAll turns s).2.state.pageSize? = some ⟨⟨0x43fa0000⟩, ⟨0x43960000⟩⟩ := by
  have hp : (observeAll bothListen newSession).2.state.page.isSome := by decide +kernel
  have hu : Throughout Undisturbed turns (observeAll bothListen newSession).2 := by decide +kernel
  have hlast : lastDecided turns (observeAll bothListen newSession).2 =
      some ⟨⟨0x43fa0000⟩, ⟨0x43960000⟩⟩ := by decide +kernel
  obtain ⟨-, hsize⟩ := pageSize_lastDecided start_newSession bothListen turns
  refine ⟨.inl hp, hu, hlast, (hsize (.inl hp) hu).trans ?_⟩
  rw [hlast, Option.some_or]

end Session
end ScreenDeck
