import ScreenDeck.Proofs.PlainActions
import ScreenDeck.Proofs.SessionHistories

/-! Sessions on an inline and on a dedicated context. What is seen of a session does not tell the
two apart, nor, while the context runs, the ways in which its steps are issued. -/

namespace ScreenDeck.Session

open ScreenDeck.Action (Fits)
open Deck (Evolves admits_evolves)
open Act (ContextFree Plain Tracks)

theorem plain_perform {step : Step} (h : step ≠ .servicesDebug) : Plain (perform step) := by
  cases hp : step.isPlain with
  | true => exact (composed_perform hp fun v _ => admits_evolves v).plain
  | false =>
    cases step with
    | shutdown => exact Plain.shutdown.bind fun _ => Plain.running _
    | servicesDebug => exact absurd rfl h
    | _ => cases hp

theorem plain_guarded {a : Deck.Do Reply} (ha : Plain a) : Plain (guarded a) := by
  refine ha.attempt.bind fun r => ?_
  rcases r with (_ | _ | _) | _
  · exact (ContextFree.pure _).plain
  · exact (ContextFree.pure _).plain
  · exact (ContextFree.throw _).plain
  · exact (ContextFree.pure _).plain

def handedBack : Except Abort Reply → Except Abort (Except DispatchFailure Reply)
  | .ok r => .ok (.ok r)
  | .error (.failed (.dispatch d)) => .ok (.error d)
  | .error _ => .error .hung

theorem issue_direct_apply (step : Step) (s : Scene Deck) :
    issue .direct step s =
      ((guarded (perform step) s).1.map .ok, (guarded (perform step) s).2) := by
  rw [issue, Act.bind_apply]
  rcases guarded (perform step) s with ⟨_ | _, t⟩ <;> rfl

theorem issue_thread_apply (step : Step) (s : Scene Deck) :
    issue .thread step s =
      ((Act.onThread .helper (guarded (perform step)) s).1.map .ok,
        (Act.onThread .helper (guarded (perform step)) s).2) := by
  rw [issue, Act.bind_apply]
  rcases Act.onThread .helper (guarded (perform step)) s with ⟨_ | _, t⟩ <;> rfl

theorem issue_ui_apply (step : Step) (s : Scene Deck) :
    issue .ui step s =
      (handedBack (Act.runSync (guarded (perform step)) s).1,
        (Act.runSync (guarded (perform step)) s).2) := by
  rw [issue, Act.bind_apply, Act.attempt_apply]
  rcases Act.runSync (guarded (perform step)) s with ⟨(f | _ | _) | _, t⟩
  · cases f <;> rfl
  all_goals rfl

theorem runSync_guarded {s : Scene Deck} (hm : s.context.mode = .inPlace)
    (hr : s.context.running = true) (a : Deck.Do Reply) :
    Act.runSync (guarded a) s = guarded a s := by
  rw [Act.runSync_apply_of_home hr (.inl hm)]
  -- The guard has turned a panic into a reply, so there is none left to contain.
  apply Act.contained_apply_ne
  rw [guarded_apply]
  rcases (a s).1 with (_ | _ | _) | _ <;> simp

theorem handedBack_guarded (a : Deck.Do Reply) (s : Scene Deck) :
    handedBack (guarded a s).1 = (guarded a s).1.map .ok := by
  rw [guarded_apply]
  rcases (a s).1 with (_ | _ | _) | _ <;> rfl

/-- However a step is issued that is not refused, it goes as if issued where the caller is. -/
theorem tracks_issue {via : Via} {step : Step} {s : Scene Deck} (hs : Fits s.context .free)
    (hx : step ≠ .servicesDebug) (hv : via = .ui → s.context.running = true) :
    Tracks .free s (issue via step s) (issue .direct step s.flat) := by
  have hplain := plain_guarded (plain_perform hx)
  rw [issue_direct_apply step s.flat]
  cases via with
  | direct =>
    rw [issue_direct_apply]
    exact (hplain.tracks hs).map (Except.map Except.ok)
  | thread =>
    rw [issue_thread_apply]
    exact (hplain.onThread hs).map (Except.map Except.ok)
  | ui =>
    have hrun := hplain.runSync.tracks hs
    rw [runSync_guarded (s := s.flat) rfl (hv rfl)] at hrun
    rw [issue_ui_apply, ← handedBack_guarded]
    exact hrun.map handedBack

theorem issue_ui_of_stopped (step : Step) {s : Scene Deck} (h : s.context.running = false) :
    issue .ui step s = (.ok (.error .stopped), s) := by
  rw [issue_ui_apply, Act.runSync_apply_of_stopped h]
  rfl

theorem tracks_observe {via : Via} {step : Step} {s : Scene Deck} (hs : Fits s.context .free)
    (hx : step ≠ .servicesDebug) (hv : via = .ui → s.context.running = true) :
    Tracks .free s (observe via step s) (observe .direct step s.flat) := by
  refine (tracks_issue hs hx hv).bind (by decide) fun r => ?_
  cases r with
  | error d => exact (ContextFree.pure _).plain
  | ok reply => exact (composed_look (R := Evolves) step reply).plain

/-! The text about the context itself, which is the one thing that tells contexts apart. -/

def contextReply (c : Context) (d : Deck) : Reply :=
  .text (Text.record "ScreenServices" [("ui", c.debugText), ("config", d.settings.debugText)] false)

theorem guarded_servicesDebug (s : Scene Deck) :
    guarded (perform .servicesDebug) s = (.ok (contextReply s.context s.state), s) := rfl

theorem issue_servicesDebug {via : Via} {s : Scene Deck} (hs : Fits s.context .free)
    (hv : via = .ui → s.context.running = true) :
    ∃ c d, issue via .servicesDebug s = (.ok (.ok (contextReply c s.state)), { s with context := d }) ∧
      Tracks .free s (.ok (), { s with context := d }) (.ok (), s.flat) := by
  have hsame : Tracks .free s (.ok (), s) (.ok (), s.flat) :=
    (ContextFree.pure ()).plain.tracks hs
  cases via with
  | direct => exact ⟨s.context, s.context, rfl, hsame⟩
  | thread =>
    refine ⟨{ s.context with thread := .helper }, s.context, ?_, hsame⟩
    rw [issue_thread_apply, Act.onThread_apply, guarded_servicesDebug]
    rfl
  | ui =>
    have hserves := hs.serves (by decide) (hv rfl)
    have hrun := (ContextFree.pure ()).plain.runSync.tracks hs
    rw [Act.runSync_apply_of_serves hserves,
      Act.runSync_apply_of_home (s := s.flat) (hv rfl) (.inl rfl)] at hrun
    refine ⟨s.context.inside, s.context.outside s.context.inside, ?_, hrun⟩
    rw [issue_ui_apply, Act.runSync_apply_of_serves hserves, Act.contained_apply,
      guarded_servicesDebug]
    rfl

/-- What is seen of a step but for a text about the context. -/
def Observation.veiled (step : Step) : Observation → Observation
  | .seen reply page listeners events toggles transitions notices screen =>
    let shown := match step with
      | .servicesDebug => .nothing
      | _ => reply
    .seen shown page listeners events toggles transitions notices screen
  | .refused d => .refused d
  | .lost => .lost

theorem veiled_look_servicesDebug (r q : Reply) (s : Scene Deck) :
    (look .servicesDebug r s).1.map (·.veiled .servicesDebug) =
        (look .servicesDebug q s).1.map (·.veiled .servicesDebug) ∧
      (look .servicesDebug r s).2 = (look .servicesDebug q s).2 := ⟨rfl, rfl⟩

theorem observe_apply_of_issue {via : Via} {step : Step} {s t : Scene Deck} {reply : Reply}
    (h : issue via step s = (.ok (.ok reply), t)) : observe via step s = look step reply t := by
  rw [observe_eq, Act.bind_apply, h]

/-- What is seen of a step is what would be seen of it in place, but for texts about the context. -/
theorem alike_observe {via : Via} {s : Scene Deck} (step : Step) (hs : Fits s.context .free)
    (hv : via = .ui → s.context.running = true) :
    Tracks .free s ((observe via step s).1.map (·.veiled step), (observe via step s).2)
      ((observe .direct step s.flat).1.map (·.veiled step), (observe .direct step s.flat).2) := by
  by_cases hx : step = .servicesDebug
  · subst hx
    obtain ⟨c, d, hissue, hback⟩ := issue_servicesDebug hs hv
    have hdirect : observe .direct .servicesDebug s.flat =
        look .servicesDebug (contextReply s.flat.context s.state) s.flat :=
      observe_apply_of_issue rfl
    have hlook := (composed_look (R := Evolves) .servicesDebug (contextReply c s.state)).plain.tracks hback.fits
    rw [← hback.flat] at hlook
    -- The two texts differ, but the veil hides them, and nothing else depends on them.
    obtain ⟨hresult, hscene⟩ := veiled_look_servicesDebug (contextReply s.flat.context s.state)
      (contextReply c s.state) s.flat
    rw [observe_apply_of_issue hissue, hdirect, hresult, hscene]
    have hmap := hlook.map (Except.map (·.veiled .servicesDebug))
    exact ⟨hmap.result, hmap.flat, hmap.fits, hmap.mode.trans hback.mode,
      hmap.thread.trans hback.thread⟩
  · exact (tracks_observe hs hx hv).map _

/-! Whole sessions. -/

theorem issue_direct_running {step : Step} (h : step ≠ .shutdown) (s : Scene Deck) :
    (issue .direct step s).2.context.running = s.context.running := by
  rw [issue_direct_apply, guarded_apply]
  cases hp : step.isPlain with
  | true => exact (composed_perform hp fun v _ => admits_evolves v).running_eq s
  | false =>
    cases step with
    | shutdown => exact absurd rfl h
    | servicesDebug => rfl
    | _ => cases hp

theorem observe_direct_running {step : Step} (h : step ≠ .shutdown) (s : Scene Deck) :
    (observe .direct step s).2.context.running = s.context.running := by
  have hissue := issue_direct_running h s
  rw [observe_eq, Act.bind_apply]
  rcases hr : issue .direct step s with ⟨r, t⟩
  rw [hr] at hissue
  rcases r with e | d | reply
  · exact hissue
  · exact hissue
  · exact ((composed_look (R := Evolves) step reply).running_eq t).trans hissue

theorem observe_ui_of_stopped (step : Step) {s : Scene Deck} (h : s.context.running = false) :
    observe .ui step s = (.ok (.refused .stopped), s) := by
  rw [observe_eq, Act.bind_apply, issue_ui_of_stopped step h]
  rfl

def veiled : List (Via × Step) → List Observation → List Observation
  | (_, step) :: steps, o :: os => o.veiled step :: veiled steps os
  | _, os => os

theorem veiled_lost (x : Via × Step) (xs : List (Via × Step)) : veiled (x :: xs) [.lost] = [.lost] := by
  cases xs <;> rfl

def Step.shutsDown : Step → Bool
  | .shutdown => true
  | _ => false

/-- The same steps. Once the context has been shut down, those on the UI side are the same, too. -/
inductive Matched : Bool → List (Via × Step) → List (Via × Step) → Prop
  | nil (running : Bool) : Matched running [] []
  | cons {running : Bool} {v w : Via} {xs ys : List (Via × Step)} (step : Step)
      (hvw : running = false → (v = .ui ↔ w = .ui))
      (h : Matched (running && !step.shutsDown) xs ys) :
      Matched running ((v, step) :: xs) ((w, step) :: ys)

theorem Matched.refl (running : Bool) (xs : List (Via × Step)) : Matched running xs xs := by
  induction xs generalizing running with
  | nil => exact .nil running
  | cons x xs ih => exact .cons x.2 (fun _ => .rfl) (ih _)

/-- Two scenes of sessions between steps that differ at most in their contexts. -/
structure Level (s t : Scene Deck) : Prop where
  flat : s.flat = t.flat
  left : Fits s.context .free
  right : Fits t.context .free

theorem Level.state {s t : Scene Deck} (h : Level s t) : s.state = t.state :=
  congrArg (·.state) h.flat

theorem Level.running {s t : Scene Deck} (h : Level s t) : s.context.running = t.context.running :=
  congrArg (·.context.running) h.flat

theorem observe_running {via : Via} {step : Step} {s : Scene Deck} (hs : Fits s.context .free)
    (hv : via = .ui → s.context.running = true) (h : step.shutsDown = false) :
    (observe via step s).2.context.running = s.context.running := by
  have hx : step ≠ .shutdown := by
    rintro rfl
    cases h
  have hflat := congrArg (·.context.running) (alike_observe step hs hv).flat
  exact hflat.symm.trans (observe_direct_running hx s.flat)

/-- Level scenes stay level over a step, in whichever way either side issues it. -/
theorem Level.observe {s t : Scene Deck} (h : Level s t) {v w : Via} (step : Step)
    (hvw : s.context.running = false → (v = .ui ↔ w = .ui)) :
    (Session.observe v step s).1.map (·.veiled step) =
        (Session.observe w step t).1.map (·.veiled step) ∧
      Level (Session.observe v step s).2 (Session.observe w step t).2 ∧
      (step.shutsDown = false →
        (Session.observe v step s).2.context.running = s.context.running) := by
  by_cases hstopped : v = .ui ∧ s.context.running = false
  · -- The context refuses the step, and as it is stopped, the other one refuses it, too.
    obtain ⟨rfl, hr⟩ := hstopped
    obtain rfl := (hvw hr).mp rfl
    rw [observe_ui_of_stopped step hr, observe_ui_of_stopped step (h.running ▸ hr)]
    exact ⟨rfl, h, fun _ => rfl⟩
  · have hv : v = .ui → s.context.running = true := fun hv => by simpa [hv] using hstopped
    have hw : w = .ui → t.context.running = true := by
      intro hw
      rw [← h.running]
      cases hr : s.context.running with
      | true => rfl
      | false => rw [← hv ((hvw hr).mpr hw), hr]
    have hleft := alike_observe step h.left hv
    have hright := alike_observe step h.right hw
    rw [← h.flat] at hright
    exact ⟨hleft.result.symm.trans hright.result,
      ⟨hleft.flat.symm.trans hright.flat, hleft.fits, hright.fits⟩, observe_running h.left hv⟩

/-- By induction on the steps. The flag tells from where on the ways of issuing them have to match. -/
theorem Level.observeAll {running : Bool} {xs ys : List (Via × Step)} (hxy : Matched running xs ys)
    {s t : Scene Deck} (h : Level s t) (hr : running = true → s.context.running = true) :
    veiled xs (Session.observeAll xs s).1 = veiled ys (Session.observeAll ys t).1 ∧
      Level (Session.observeAll xs s).2 (Session.observeAll ys t).2 := by
  induction hxy generalizing s t with
  | nil => exact ⟨rfl, h⟩
  | @cons running v w xs ys step hvw _ ih =>
    have hways : s.context.running = false → (v = .ui ↔ w = .ui) := by
      intro hoff
      apply hvw
      cases running with
      | false => rfl
      | true => rw [← hr rfl, hoff]
    obtain ⟨hseen, hlevel, hkept⟩ := h.observe step hways
    rw [Session.observeAll, Session.observeAll]
    rcases hu : Session.observe v step s with ⟨o | o, u⟩ <;>
      rcases hz : Session.observe w step t with ⟨p | p, z⟩ <;>
      rw [hu, hz] at hseen <;> rw [hu, hz] at hlevel <;> rw [hu] at hkept
    -- Both sessions end here, or both go on, as a step that ends one has to end the other.
    · exact ⟨(veiled_lost _ xs).trans (veiled_lost _ ys).symm, hlevel⟩
    · cases hseen
    · cases hseen
    · have hflag : (running && !step.shutsDown) = true → u.context.running = true := by
        intro hon
        obtain ⟨hrunning, hstep⟩ := (Bool.and_eq_true _ _).mp hon
        rw [hkept (by simpa using hstep), hr hrunning]
      obtain ⟨hrest, hend⟩ := ih hlevel hflag
      refine ⟨?_, hend⟩
      have hone : o.veiled step = p.veiled step := Except.ok.inj hseen
      simp only [veiled, hone, hrest]

theorem fits_new (m : Mode) : Fits { mode := m } .free := by
  cases m with
  | inPlace => exact .inl rfl
  | dedicated => exact .inr ⟨Thread.noConfusion, rfl, rfl⟩

theorem level_start {setup : Setup} {m n : Mode} {s t : Scene Deck}
    (hs : { setup with mode := m }.start = .ok s) (ht : { setup with mode := n }.start = .ok t) :
    Level s t ∧ s.context.running = true := by
  obtain ⟨settings, hset, rfl⟩ := start_eq_ok hs
  obtain ⟨settings', hset', rfl⟩ := start_eq_ok ht
  obtain rfl : settings = settings' := Except.ok.inj (hset.symm.trans hset')
  exact ⟨⟨rfl, fits_new m, fits_new n⟩, rfl⟩

def screensOf (s : Scene Deck) : List (String × ScreenView) :=
  s.state.names.screens.filterMap fun (name, r) =>
    match screenView r s with
    | (.ok view, _) => some (name, view)
    | (.error _, _) => none

theorem Level.screensOf {s t : Scene Deck} (h : Level s t) :
    Session.screensOf s = Session.screensOf t := by
  have hviews (r : Ref .screen) : (screenView r s).1 = (screenView r t).1 := by
    have hplain := (composed_screenView (R := Evolves) r).plain
    have hleft := (hplain.tracks h.left).result
    have hright := (hplain.tracks h.right).result
    rw [← hleft, ← hright, h.flat]
  unfold Session.screensOf
  rw [h.state]
  congr 1
  funext x
  obtain ⟨name, r⟩ := x
  have hr := hviews r
  rcases hu : screenView r s with ⟨a, u⟩
  rcases hv : screenView r t with ⟨b, v⟩
  rw [hu, hv] at hr
  obtain rfl : a = b := hr
  cases a <;> simp only [hu, hv]

theorem run_of_start {setup : Setup} {s : Scene Deck} (h : setup.start = .ok s)
    (steps : List (Via × Step)) :
    run setup steps = .ok ((observeAll steps s).1, screensOf (observeAll steps s).2) := by
  rw [run, h]
  rfl

/-- A session does not show on which kind of context it runs. As long as the context runs, it does
not show either in which way a step is issued. -/
theorem sessions_agree {setup : Setup} {m n : Mode} {s t : Scene Deck} {xs ys : List (Via × Step)}
    (hs : { setup with mode := m }.start = .ok s) (ht : { setup with mode := n }.start = .ok t)
    (h : Matched true xs ys) :
    ∃ os ps screens, run { setup with mode := m } xs = .ok (os, screens) ∧
      run { setup with mode := n } ys = .ok (ps, screens) ∧
      veiled xs os = veiled ys ps ∧
      (observeAll xs s).2.state = (observeAll ys t).2.state := by
  obtain ⟨hstart, hrunning⟩ := level_start hs ht
  obtain ⟨hseen, hend⟩ := hstart.observeAll h fun _ => hrunning
  exact ⟨_, _, _, run_of_start hs xs, by rw [run_of_start ht, hend.screensOf], hseen, hend.state⟩

def deferring : Setup := { engine := some .deferred }

/-- A screen is shown through an engine that takes its switch down. After the shutdown the next
request of the screen fails. -/
def lateSteps : List Step :=
  [.openScreen "a" ⟨1⟩, .onScreen "a" (.transition 3), .notify 1, .switch 0 .invoke, .shutdown,
    .onScreen "a" .present]

theorem late_steps_agree :
    let xs := [Via.direct, .direct, .direct, .direct, .direct, .direct].zip lateSteps
    let ys := [Via.ui, .thread, .thread, .ui, .ui, .thread].zip lateSteps
    ∃ os ps screens, run deferring xs = .ok (os, screens) ∧
      run { deferring with mode := .dedicated } ys = .ok (ps, screens) ∧
      veiled xs os = veiled ys ps := by
  intro xs ys
  have hxy : Matched true xs ys :=
    .cons _ (by decide) (.cons _ (by decide) (.cons _ (by decide) (.cons _ (by decide)
      (.cons _ (by decide) (.cons _ (by decide) (.nil _))))))
  have hs : ({ deferring with mode := .inPlace } : Setup).start = .ok _ := rfl
  have ht : ({ deferring with mode := .dedicated } : Setup).start = .ok _ := rfl
  obtain ⟨os, ps, screens, hos, hps, hveiled, -⟩ := sessions_agree hs ht hxy
  exact ⟨os, ps, screens, hos, hps, hveiled⟩

end ScreenDeck.Session
