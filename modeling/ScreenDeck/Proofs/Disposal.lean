import ScreenDeck.Proofs.Notifications
import ScreenDeck.Proofs.Voices

/-! Disposal of screens, also by hosts that listen and dispose of a screen when they are told. A
notification goes to those who listen when it starts. A screen that is disposed of before that is not
told any more, but one that is disposed of by a listener before it is told all the same. -/

namespace ScreenDeck
namespace Deck

open ScreenDeck.Action (Place Fits)
open Act (Composed)

variable {d e f : Deck} {s u : Scene Deck} {device : DeviceOrientation} {ls : List Listener}
  {r : Ref .screen}

structure Heard (ls : List Listener) (d e : Deck) : Prop where
  trackers : e.trackers = d.trackers
  faults : e.faults = d.faults
  page : e.page.isSome = d.page.isSome
  outbox : e.outbox.isSome = d.outbox.isSome
  tracker : ∀ r, (e.screens.get r).tracker = (d.screens.get r).tracker
  disposed : ∀ r, (e.screens.get r).disposed =
    ((d.screens.get r).disposed || decide (.disposer r ∈ ls))

namespace Heard

theorem refl (d : Deck) : Heard [] d d := ⟨rfl, rfl, rfl, rfl, fun _ => rfl, fun r => by simp⟩

theorem trans {ms : List Listener} (h : Heard ls d e) (h' : Heard ms e f) : Heard (ls ++ ms) d f where
  trackers := h'.trackers.trans h.trackers
  faults := h'.faults.trans h.faults
  page := h'.page.trans h.page
  outbox := h'.outbox.trans h.outbox
  tracker r := (h'.tracker r).trans (h.tracker r)
  disposed r := by
    rw [h'.disposed, h.disposed, Bool.or_assoc]
    simp [List.mem_append]

theorem told (t : Ref .tracker) (device : DeviceOrientation) (handles : List Handle) (d : Deck) :
    Heard [.tracker t] d (d.told device handles) := by
  refine ⟨rfl, rfl, ?_, ?_, fun _ => rfl, fun r => by simp [Deck.told]⟩
  · unfold Deck.told
    split <;> simp
  · simp [Deck.told]

theorem retire {q : Ref .screen} (hq : (d.screens.get q).disposed = false) :
    Heard [.disposer q] d (d.retire q) := by
  have hx := get?_of_not_disposed hq
  have hself : (d.retire q).screens.get? q =
      some { d.screens.get q with disposed := true, subscription.active := false } := by
    rw [Deck.retire, modifyScreen, Store.get?_modify_self, release_eq, hx]
    rfl
  have hne {r : Ref .screen} (hr : r ≠ q) : (d.retire q).screens.get r = d.screens.get r := by
    rw [Store.get, Store.get, Deck.retire, modifyScreen, Store.get?_modify_ne _ _ hr.symm, release_eq]
  have hrest : (d.retire q).trackers = d.trackers ∧ (d.retire q).faults = d.faults ∧
      (d.retire q).page = d.page ∧ (d.retire q).outbox = d.outbox := by
    rw [Deck.retire, release_eq]
    exact ⟨rfl, rfl, rfl, rfl⟩
  obtain ⟨htrackers, hfaults, hpage, houtbox⟩ := hrest
  refine ⟨htrackers, hfaults, by rw [hpage], by rw [houtbox], fun r => ?_, fun r => ?_⟩
  · by_cases hr : r = q
    · rw [hr, Store.get_of_get? hself]
    · rw [hne hr]
  · by_cases hr : r = q
    · rw [hr, Store.get_of_get? hself]
      simp
    · rw [hne hr]
      simp [hr]

theorem again {q : Ref .screen} (hq : (d.screens.get q).disposed = true) : Heard [.disposer q] d d := by
  refine ⟨rfl, rfl, rfl, rfl, fun _ => rfl, fun r => ?_⟩
  by_cases hr : r = q
  · simp [hr, hq]
  · simp [hr]

end Heard

theorem ends_dispose (q : Ref .screen) (s : Scene Deck) : Ends (dispose q) s (.ok ())
    (if (s.state.screens.get q).disposed then s.state else s.state.retire q) := by
  have hrun : dispose q s = _ := Act.bind_apply_ok (Act.state_apply s)
  cases hd : (s.state.screens.get q).disposed with
  | true =>
    simp only [hd, if_true] at hrun
    exact ⟨by rw [hrun]; rfl, by rw [hrun]; rfl, by rw [hrun]; rfl⟩
  | false =>
    simp only [hd] at hrun
    exact ⟨by rw [hrun]; rfl, by rw [hrun]; rfl, by rw [hrun]; rfl⟩

/-- Whoever is told may post, lay the page out or dispose of one screen, and that is all. -/
theorem heard_receive (hm : s.context.mode = .inPlace) (hf : s.state.faults .pageSize ≠ .panic)
    (device : DeviceOrientation) (l : Listener) :
    ∃ e, Ends (receive device l) s (.ok ()) e ∧ Heard [l] s.state e := by
  cases l with
  | tracker t =>
    refine ⟨_, ends_receive hm hf t, ?_⟩
    split
    · exact .told t device _ _
    · exact ⟨rfl, rfl, rfl, rfl, fun _ => rfl, fun r => by simp⟩
  | disposer q =>
    refine ⟨_, ends_dispose q s, ?_⟩
    split
    next hq => exact .again hq
    next hq => exact .retire (by simpa using hq)

theorem heard_forM (hm : s.context.mode = .inPlace) (hf : s.state.faults .pageSize ≠ .panic)
    (device : DeviceOrientation) (ls : List Listener) :
    ∃ e, Ends (ls.forM (receive device)) s (.ok ()) e ∧ Heard ls s.state e := by
  induction ls generalizing s with
  | nil => exact ⟨_, .pure (), .refl _⟩
  | cons l ls ih =>
    obtain ⟨e, hend, hheard⟩ := heard_receive hm hf device l
    have hpasses : (receive device l s).2.state.faults .pageSize ≠ .panic := by
      rwa [hend.state, hheard.faults]
    obtain ⟨f, hrest, hheard'⟩ := ih (s := (receive device l s).2) (by rw [hend.context, hm]) hpasses
    rw [hend.state] at hheard'
    exact ⟨f, hend.follow hrest, hheard.trans hheard'⟩

/-! Turns, on any context that fits. -/

/-- The listener posts a record or changes the page when it is told. -/
def Speaks (device : DeviceOrientation) (l : Listener) (s : Scene Deck) : Prop :=
  (receive device l s).2.state.outbox ≠ s.state.outbox ∨
    (receive device l s).2.state.page ≠ s.state.page

theorem not_speaks_of_dead {t : Ref .tracker} (h : (s.state.trackers.get t).alive = false) :
    ¬ Speaks device (.tracker t) s := by
  rw [Speaks, (ends_receive_dead h).state]
  exact not_or.mpr ⟨fun hne => hne rfl, fun hne => hne rfl⟩

section Fitting

variable {place : Place} (hc : Fits s.context place) (hp : place ≠ .helper) (hf : s.state.LetsReflow)
include hc hp hf

theorem receive_tracker_state (device : DeviceOrientation) (t : Ref .tracker) :
    (receive device (.tracker t) s).2.state =
      if Silent device s then s.state else s.state.told device (s.state.hearers [.tracker t]) := by
  have hcomposed : Composed Evolves (receive device (.tracker t)) :=
    composed_receive (fun _ _ => admits_evolves _) _
  exact (ends_of_flat hc hp hcomposed (receive_inline (s := s.flat) rfl hf t)).2

/-- A tracker speaks if it is alive and something comes of the orientation. -/
theorem speaks_iff (ho : s.state.outbox.isSome) (t : Ref .tracker) : Speaks device (.tracker t) s ↔
    (s.state.trackers.get t).alive = true ∧ ¬ Silent device s := by
  cases ha : (s.state.trackers.get t).alive with
  | false => exact iff_of_false (not_speaks_of_dead ha) fun h => Bool.false_ne_true h.1
  | true =>
    rw [Speaks, receive_tracker_state hc hp hf]
    by_cases hs : Silent device s
    · rw [if_pos hs]
      exact iff_of_false (not_or.mpr ⟨fun h => h rfl, fun h => h rfl⟩) fun h => h.2 hs
    · rw [if_neg hs]
      refine iff_of_true (.inl fun he => ?_) ⟨rfl, hs⟩
      obtain ⟨posted, ho⟩ := Option.isSome_iff_exists.mp ho
      have hhear : s.state.hearers [.tracker t] = [(s.state.trackers.get t).handle] := by
        simp [hearers, hearer?, ha]
      rw [ho] at he
      have hnone := (outbox_told_eq_iff ho).mp he
      rw [hhear] at hnone
      cases hnone

/-- The turns of those who are told first come to an end, and change little that matters to others. -/
theorem heard_before (device : DeviceOrientation) (ls : List Listener) :
    let u := (ls.forM (receive device) s).2
    Heard ls s.state u.state ∧ Fits u.context place ∧ u.context.running = s.context.running := by
  have hcomposed : Composed Evolves (ls.forM (receive device)) :=
    Composed.forM (composed_receive fun _ _ => admits_evolves _) ls
  obtain ⟨e, hend, hheard⟩ := heard_forM (s := s.flat) rfl hf.pageSize_ne_panic device ls
  obtain ⟨-, hstate⟩ := ends_of_flat hc hp hcomposed hend
  refine ⟨?_, (hcomposed.plain place s hc hp).fits, hcomposed.running_eq s⟩
  rw [hstate]
  exact hheard

end Fitting

/-- When the screen is told, it has been disposed of, and speaks. -/
def SpeaksDisposed (device : DeviceOrientation) (r : Ref .screen) (s : Scene Deck) : Prop :=
  ∃ pre t post, s.state.orientation.audience = pre ++ .tracker t :: post ∧
    let u := (pre.forM (receive device) s).2
    ∃ y, u.state.screens.get? r = some y ∧ y.tracker = t ∧ y.disposed = true ∧
      Speaks device (.tracker t) u

theorem Voiced.not_disposed_of_mem {x : Screen} (h : Voiced d) (hx : d.screens.get? r = some x)
    (hm : .tracker x.tracker ∈ d.orientation.audience) : x.disposed = false := by
  rw [Signal.audience] at hm
  split at hm
  · cases hm
  · obtain ⟨key, hk⟩ := Slots.exists_of_mem_values hm
    exact (h.own (life?_of_get? hx) hk).1

theorem silent_congr (hpage : u.state.page.isSome = s.state.page.isSome)
    (hrunning : u.context.running = s.context.running) : Silent device u ↔ Silent device s := by
  have hnone : u.state.page = none ↔ s.state.page = none := by
    rw [← Option.not_isSome_iff_eq_none, ← Option.not_isSome_iff_eq_none, hpage]
  rw [Silent, Silent, hrunning, hnone]

section Turns

variable {x : Screen} {place : Place} (h : Voiced s.state) (hx : s.state.screens.get? r = some x)
  (hc : Fits s.context place) (hp : place ≠ .helper) (hf : s.state.LetsReflow)
  (ho : s.state.outbox.isSome)
include h hx hc hp hf ho

theorem Voiced.turn (device : DeviceOrientation) (pre : List Listener) :
    let u := (pre.forM (receive device) s).2
    (Speaks device (.tracker x.tracker) u ↔ x.alive = true ∧ ¬ Silent device s) ∧
      (u.state.screens.get r).tracker = x.tracker ∧
      (u.state.screens.get r).disposed = (x.disposed || decide (.disposer r ∈ pre)) := by
  intro u
  obtain ⟨hheard, hfits, hrunning⟩ := heard_before hc hp hf device pre
  have hlets : u.state.LetsReflow := by
    rw [LetsReflow, hheard.faults]
    exact hf
  have htracker := h.tracker (life?_of_get? hx)
  have halive : (u.state.trackers.get x.tracker).alive = x.alive := by
    rw [hheard.trackers]
    exact congrArg Tracker.alive (Store.get_of_get? htracker)
  refine ⟨?_, ?_, ?_⟩
  · rw [speaks_iff hfits hp hlets (hheard.outbox.trans ho), halive, silent_congr hheard.page hrunning]
  · rw [hheard.tracker, Store.get_of_get? hx]
  · rw [hheard.disposed, Store.get_of_get? hx]

/-- A screen that has been disposed of speaks if the listener that disposed of it was told before the
screen in the same notification, and not otherwise. -/
theorem Voiced.speaksDisposed_iff : SpeaksDisposed device r s ↔ x.alive = true ∧ ¬ Silent device s ∧
    ∃ pre post, s.state.orientation.audience = pre ++ .tracker x.tracker :: post ∧
      .disposer r ∈ pre := by
  constructor
  · rintro ⟨pre, t, post, haudience, y, hy, rfl, hdisposed, hspeaks⟩
    obtain ⟨hiff, htracker, hflag⟩ := h.turn hx hc hp hf ho device pre
    rw [Store.get_of_get? hy] at htracker hflag
    rw [htracker] at haudience hspeaks
    -- It still listened when the notification started, so one of those before it has disposed of it.
    have hlistens : x.disposed = false := h.not_disposed_of_mem hx (by simp [haudience])
    rw [hdisposed, hlistens, Bool.false_or] at hflag
    obtain ⟨halive, hheard⟩ := hiff.mp hspeaks
    exact ⟨halive, hheard, pre, post, haudience, of_decide_eq_true hflag.symm⟩
  · rintro ⟨halive, hheard, pre, post, haudience, hbefore⟩
    obtain ⟨hiff, htracker, hflag⟩ := h.turn hx hc hp hf ho device pre
    have hleads : Attends s.state (pre.forM (receive device) s).2.state :=
      (Composed.forM (composed_receive fun _ _ => admits_attends _) pre).keeps s
    obtain ⟨z, hz, -⟩ := hleads.leads r x.life (life?_of_get? hx)
    obtain ⟨y, hy, -⟩ := Option.map_eq_some_iff.mp hz
    rw [Store.get_of_get? hy] at htracker hflag
    exact ⟨pre, x.tracker, post, haudience, y, hy, htracker, by simp [hflag, hbefore],
      hiff.mpr ⟨halive, hheard⟩⟩

end Turns

/-- Dropping the screen silences it at once, even if it is told after that. -/
theorem Voiced.not_speaks_of_drop {x : Screen} (h : Voiced s.state)
    (hx : s.state.screens.get? r = some x) (pre : List Listener) (name : String) :
    let u := (pre.forM (receive device) s).2
    let v : Scene Deck := { u with state := (u.state.dropScreen name).2 }
    (v.state.screens.get r).alive = false → ¬ Speaks device (.tracker x.tracker) v := by
  intro u v hended
  have hvoices : Voices s.state u.state :=
    (Composed.forM (composed_receive fun _ _ => admits_voices _) pre).keeps s
  have hattends : Attends s.state u.state :=
    (Composed.forM (composed_receive fun _ _ => admits_attends _) pre).keeps s
  obtain ⟨y, hy, hxy⟩ :=
    (hattends.trans (spans_dropScreen name u.state)).leads r x.life (life?_of_get? hx)
  obtain ⟨z, hz, rfl⟩ := Option.map_eq_some_iff.mp hy
  rw [Store.get_of_get? hz] at hended
  have htracker := (spans_dropScreen (R := Voices) name u.state (hvoices h)).tracker hy
  have hsame : z.tracker = x.tracker := hxy.tracker
  refine not_speaks_of_dead ?_
  rw [← hsame]
  exact (congrArg Tracker.alive (Store.get_of_get? htracker)).trans hended

end Deck

namespace Session

open Deck
open ScreenDeck.Action (Place Fits)

variable {setup : Setup} {start s t : Scene Deck} {r : Ref .screen} {x : Screen}

/-- Sessions whose host may listen, too, and dispose of a screen when it is told. -/
inductive Hosted (s : Scene Deck) : Scene Deck → Prop
  | start : Hosted s s
  | step {t : Scene Deck} (h : Hosted s t) (via : Via) (step : Step) : Hosted s (observe via step t).2
  | listen {t : Scene Deck} (h : Hosted s t) (q : Ref .screen) :
      Hosted s { t with state := (t.state.listen (.disposer q)).2 }
  | leave {t : Scene Deck} {key : SlotKey} {q : Ref .screen} (h : Hosted s t)
      (hk : t.state.orientation.slots.get? key = some (.disposer q)) :
      Hosted s { t with state := (t.state.release ⟨key, true⟩).2 }

namespace Hosted

/-- The sessions without such listeners are among them. -/
theorem observeAll (h : Hosted s t) (steps : List (Via × Step)) :
    Hosted s (observeAll steps t).2 := by
  induction steps generalizing t with
  | nil => exact h
  | cons x steps ih =>
    obtain ⟨via, step⟩ := x
    have hstep := h.step via step
    rw [Session.observeAll]
    rcases hr : observe via step t with ⟨r, u⟩
    rw [hr] at hstep
    cases r with
    | ok o => exact ih hstep
    | error _ => exact hstep

theorem voices (h : Hosted s t) : Voices s.state t.state := by
  induction h with
  | start => exact id
  | @step t _ via step ih =>
    have hstep : Voices t.state (observe via step t).2.state :=
      keeps_observe (R := Voices) via (fun v _ => admits_voices v) t
    exact hstep ∘ ih
  | listen _ q ih => exact fun hs => (ih hs).listen nofun
  | leave _ _ ih => exact fun hs => (ih hs).release _

theorem leads (h : Hosted s t) {x : Life} (hx : s.state.life? r = some x) :
    ∃ y, t.state.life? r = some y ∧ x.Leads y := by
  induction h with
  | start => exact ⟨x, hx, .refl x⟩
  | @step t _ via step ih =>
    obtain ⟨y, hy, hxy⟩ := ih
    have hstep : Attends t.state (observe via step t).2.state :=
      keeps_observe (R := Attends) via (fun v _ => admits_attends v) t
    obtain ⟨z, hz, hyz⟩ := hstep.leads r y hy
    exact ⟨z, hz, hxy.trans hyz⟩
  | listen _ q ih => exact ih
  | leave _ _ ih =>
    obtain ⟨y, hy, hxy⟩ := ih
    exact ⟨y, by rwa [life?_release], hxy⟩

/-- A screen that was disposed of before the notification is not in its audience. -/
theorem not_told (h : Hosted s t) (hs : Voiced s.state) (hx : s.state.screens.get? r = some x)
    (hdisposed : x.disposed = true) : .tracker x.tracker ∉ t.state.orientation.audience := by
  intro hm
  obtain ⟨y, hy, hxy⟩ := h.leads (life?_of_get? hx)
  obtain ⟨z, hz, rfl⟩ := Option.map_eq_some_iff.mp hy
  have htracker : z.tracker = x.tracker := hxy.tracker
  rw [← htracker] at hm
  have hlistens := (h.voices hs).not_disposed_of_mem hz hm
  exact absurd (hlistens.symm.trans (hxy.disposed hdisposed)) nofun

end Hosted

theorem voiced_start (h : setup.start = .ok start) : Voiced start.state := by
  obtain ⟨settings, -, rfl⟩ := start_eq_ok h
  have hnew : (setup.deck settings).screens = {} ∧ (setup.deck settings).orientation.slots = {} ∧
      (setup.deck settings).names.trackers = [] := by
    unfold Setup.deck
    cases setup.withPage <;> exact ⟨rfl, rfl, rfl⟩
  exact .start hnew.1 hnew.2.1 hnew.2.2

/-- Whoever listens in whatever order, a screen that has been disposed of is not told of any later
notification. In the notification that was under way it speaks exactly if its turn comes after that of
a listener that disposes of it. Had it been dropped before its turn, it would not have spoken. -/
theorem speaks_after_disposal_iff {place : Place} (h : setup.start = .ok start) (hs : Hosted start s)
    (hx : s.state.screens.get? r = some x) (hc : Fits s.context place) (hp : place ≠ .helper)
    (hf : s.state.LetsReflow) (ho : s.state.outbox.isSome) (device : DeviceOrientation) :
    (SpeaksDisposed device r s ↔ x.alive = true ∧ ¬ Silent device s ∧
      ∃ pre post, s.state.orientation.audience = pre ++ .tracker x.tracker :: post ∧
        .disposer r ∈ pre) ∧
    (x.disposed = true → ∀ t, Hosted s t → .tracker x.tracker ∉ t.state.orientation.audience) ∧
    ∀ (pre : List Listener) (name : String), let u := (pre.forM (receive device) s).2
      let v : Scene Deck := { u with state := (u.state.dropScreen name).2 }
      (v.state.screens.get r).alive = false → ¬ Speaks device (.tracker x.tracker) v := by
  have hvoiced : Voiced s.state := hs.voices (voiced_start h)
  exact ⟨hvoiced.speaksDisposed_iff hx hc hp hf ho, fun hdisposed t ht => ht.not_told hvoiced hx hdisposed,
    fun pre name hended => hvoiced.not_speaks_of_drop hx pre name hended⟩

/-- The first of two screens is disposed of, and a listener that disposes of the second one takes its
slot, in front of the screen it disposes of. -/
def disposesNext : Scene Deck :=
  let s := (observeAll ([.openScreen "z" ⟨1⟩, .openScreen "a" ⟨2⟩, .onScreen "z" .dispose].map
    (Via.direct, ·)) newSession).2
  { s with state := (s.state.listen (.disposer ⟨1⟩)).2 }

theorem hosted_disposesNext : Hosted newSession disposesNext :=
  (Hosted.start.observeAll _).listen ⟨1⟩

/-- The listener has disposed of the screen, and then the page is turned and two records are posted for
that screen. -/
theorem disposed_screen_posts :
    let s := disposesNext
    let u := (receive .landscapeLeft (.disposer ⟨1⟩) s).2
    let v := (receive .landscapeLeft (.tracker ⟨1⟩) u).2
    s.state.orientation.audience = [.disposer ⟨1⟩, .tracker ⟨1⟩] ∧
      (u.state.screens.get ⟨1⟩).disposed = true ∧ u.state.outbox = some [] ∧
      v.state.outbox = some (reports .landscapeLeft ⟨2⟩) ∧
      u.state.page.map (·.size) = some ⟨.ofInt 480, .ofInt 800⟩ ∧
      v.state.page.map (·.size) = some ⟨.ofInt 800, .ofInt 480⟩ ∧
      (notifyOrientation .landscapeLeft s).2.state.outbox = some (reports .landscapeLeft ⟨2⟩) := by
  decide +kernel

/-- The first screen is silent for good, and the second one still speaks. -/
theorem next_speaks_after_disposal :
    SpeaksDisposed .landscapeLeft ⟨1⟩ disposesNext ∧
      ∃ x, disposesNext.state.screens.get? ⟨0⟩ = some x ∧
        ∀ t, Hosted disposesNext t → .tracker x.tracker ∉ t.state.orientation.audience := by
  have hs : Hosted newSession disposesNext := hosted_disposesNext
  have hc : Fits disposesNext.context .free := .inl rfl
  have hfree : Action.Place.free ≠ .helper := by decide
  have hf : disposesNext.state.LetsReflow := ⟨rfl, rfl⟩
  have ho : disposesNext.state.outbox.isSome := by decide +kernel
  have hheard : ¬ Silent .landscapeLeft disposesNext := by decide +kernel
  have hthere : (disposesNext.state.screens.get? ⟨0⟩).isSome ∧
      (disposesNext.state.screens.get? ⟨1⟩).isSome := by decide +kernel
  have hfirst : (disposesNext.state.screens.get ⟨0⟩).disposed = true := by decide +kernel
  have hsecond : (disposesNext.state.screens.get ⟨1⟩).alive = true ∧
      disposesNext.state.orientation.audience =
        [.disposer ⟨1⟩, .tracker (disposesNext.state.screens.get ⟨1⟩).tracker] := by decide +kernel
  obtain ⟨x, hx⟩ := Option.isSome_iff_exists.mp hthere.1
  obtain ⟨y, hy⟩ := Option.isSome_iff_exists.mp hthere.2
  rw [Store.get_of_get? hx] at hfirst
  rw [Store.get_of_get? hy] at hsecond
  have hnever :=
    (speaks_after_disposal_iff start_newSession hs hx hc hfree hf ho .landscapeLeft).2.1 hfirst
  have hspeaks := (speaks_after_disposal_iff start_newSession hs hy hc hfree hf ho .landscapeLeft).1
  exact ⟨hspeaks.mpr ⟨hsecond.1, hheard, [.disposer ⟨1⟩], [], hsecond.2, by simp⟩, x, hx, hnever⟩

end Session
end ScreenDeck
