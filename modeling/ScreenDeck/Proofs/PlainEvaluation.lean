import ScreenDeck.Dispatch.Program
import ScreenDeck.Proofs.HandOver

/-! Programs on a context evaluated plainly. The evaluator knows no threads and no loop, only a flag
and the trace. An inline and a dedicated context both do what it says. -/

namespace ScreenDeck

/-- Answers about threads, and texts, differ from context to context. -/
def Entry.isPlain {δ : Type} : Entry δ → Bool
  | .isUi _ _ _ _ | .name _ | .assert _ _ | .debug _ => false
  | _ => true

namespace Action

variable {δ : Type}

/-- How a program ends. One that panics does so outside all work and all helper threads. -/
inductive Finish where
  | done
  | panicked
deriving DecidableEq

def Finish.result : Finish → Except Abort Unit
  | done => .ok ()
  | panicked => .error .panicked

structure Plain (δ : Type) where
  running : Bool := true
  trace : List (Entry δ) := []

def Plain.add (p : Plain δ) (e : Entry δ) : Plain δ := { p with trace := p.trace ++ [e] }

mutual

/-- Work is refused if the flag is down when it begins. Else it runs in place, and contains the
panics in it. Questions about threads and texts leave nothing behind. -/
def evaluate : Action δ → Plain δ → Finish × Plain δ
  | .push value, p => (.done, p.add (.push value))
  | .panic, p => (.panicked, p)
  | .running, p => (.done, p.add (.running p.running))
  | .isUi, p => (.done, p)
  | .name, p => (.done, p)
  | .assert, p => (.done, p)
  | .debug, p => (.done, p)
  | .shutdown, p => (.done, { p with running := false }.add .shutdown)
  | .run result body, p =>
    if p.running then
      match evaluateAll body p with
      | (.done, q) => (.done, q.add (.run (.ok result)))
      | (.panicked, q) => (.done, q.add (.run (.error .workPanicked)))
    else (.done, p.add (.run (.error .stopped)))
  | .thread body, p =>
    match evaluateAll body p with
    | (.done, q) => (.done, q.add (.thread false))
    | (.panicked, q) => (.done, q.add (.thread true))

def evaluateAll : List (Action δ) → Plain δ → Finish × Plain δ
  | [], p => (.done, p)
  | a :: as, p =>
    match evaluate a p with
    | (.done, q) => evaluateAll as q
    | (.panicked, q) => (.panicked, q)

end

def plain (s : Scene (Run δ)) : Plain δ := ⟨s.context.running, s.state.trace.filter Entry.isPlain⟩

/-- Where an action stands: outside all work, in work, or in a helper thread that work started. -/
inductive Place where
  | free
  | work
  | helper
deriving DecidableEq

mutual

/-- No helper thread that work started hands over work or shuts the context down. -/
def tame : Place → Action δ → Bool
  | .helper, .run _ _ => false
  | .helper, .shutdown => false
  | _, .run _ body => tameAll .work body
  | .free, .thread body => tameAll .free body
  | _, .thread body => tameAll .helper body
  | _, _ => true

def tameAll : Place → List (Action δ) → Bool
  | _, [] => true
  | place, a :: as => tame place a && tameAll place as

end

/-- What is true of a context at a place. Outside all work a loop is idle, and it has ended once
the flag is down. -/
def Fits (c : Context) : Place → Prop
  | .free => c.mode = .inPlace ∨
      c.thread ≠ .ui ∧ c.loop.busy = false ∧ c.loop.ended = !c.running
  | .work => c.mode = .inPlace ∨ c.thread = .ui ∧ c.loop.ended = false
  | .helper => True

structure Follows (place : Place) (s : Scene (Run δ)) (r : Except Abort Unit × Scene (Run δ))
    (e : Finish × Plain δ) : Prop where
  result : r.1 = e.1.result
  plain : plain r.2 = e.2
  fits : Fits r.2.context place
  mode : r.2.context.mode = s.context.mode
  thread : r.2.context.thread = s.context.thread
  kept : place = .helper → r.2.context = s.context

def withEntry (e : Entry δ) (s : Scene (Run δ)) : Scene (Run δ) :=
  { s with state := { s.state with trace := s.state.trace ++ [e] } }

theorem plain_withEntry {e : Entry δ} (h : e.isPlain = true) (s : Scene (Run δ)) :
    plain (withEntry e s) = (plain s).add e := by
  simp [plain, withEntry, Plain.add, h]

theorem plain_withEntry_of_not {e : Entry δ} (h : e.isPlain = false) (s : Scene (Run δ)) :
    plain (withEntry e s) = plain s := by
  simp [plain, withEntry, h]

namespace Fits

variable {c : Context} {place : Place}

theorem serves (h : Fits c place) (hp : place ≠ .helper) (hr : c.running = true) : c.Serves := by
  refine ⟨hr, ?_⟩
  cases place with
  | free =>
    rcases h with hm | ⟨_, hb, he⟩
    · exact .inl (.inl hm)
    · exact .inr ⟨by rw [he, hr]; rfl, hb⟩
  | work => exact .inl (Context.staysHere_iff.mpr (h.imp_right And.left))
  | helper => exact absurd rfl hp

/-- Outside all work only an inline context keeps work where the caller is. -/
theorem inPlace_of_staysHere (h : Fits c .free) (hs : c.StaysHere) : c.mode = .inPlace := by
  rcases h with hm | ⟨ht, _⟩
  · exact hm
  · exact (Context.staysHere_iff.mp hs).resolve_right ht

theorem inside (h : Fits c place) (hp : place ≠ .helper) (hr : c.running = true) :
    Fits c.inside .work := by
  by_cases hs : c.StaysHere
  · rw [hs.inside_eq]
    cases place with
    | free => exact .inl (h.inPlace_of_staysHere hs)
    | work => exact h
    | helper => exact absurd rfl hp
  · cases place with
    | free =>
      obtain ⟨_, _, he⟩ := h.resolve_left fun hm => hs (.inl hm)
      exact .inr (by simp [Context.inside, hs, he, hr])
    | work => exact absurd (Context.staysHere_iff.mpr (h.imp_right And.left)) hs
    | helper => exact absurd rfl hp

/-- The caller finds a context that fits its place, whatever the work has done with the flag. -/
theorem outside {d : Context} (h : Fits c place) (hp : place ≠ .helper) (hd : Fits d .work)
    (hm : d.mode = c.mode) : Fits (c.outside d) place := by
  by_cases hs : c.StaysHere
  · rw [hs.outside_eq]
    cases place with
    | free => exact .inl (hm.trans (h.inPlace_of_staysHere hs))
    | work => exact hd
    | helper => exact absurd rfl hp
  · cases place with
    | free =>
      obtain ⟨ht, _, _⟩ := h.resolve_left fun hm => hs (.inl hm)
      have he := (hd.resolve_left fun hi => hs (.inl (hm.symm.trans hi))).2
      right
      cases hr : d.running <;> simp [Context.outside, Context.turned, hs, ht, he, hr]
    | work => exact absurd (Context.staysHere_iff.mpr (h.imp_right And.left)) hs
    | helper => exact absurd rfl hp

theorem shut (h : Fits c place) : Fits c.shut place := by
  cases place with
  | free =>
    rcases h with hm | ⟨ht, hb, _⟩
    · exact .inl (by rw [Context.mode_shut, hm])
    · cases hm : c.mode with
      | inPlace => exact .inl (by rw [Context.mode_shut, hm])
      | dedicated =>
        exact .inr (by simp [Context.shut, hm, Context.onHomeThread, Context.home, ht, hb])
  | work =>
    rcases h with hm | ⟨ht, he⟩
    · exact .inl (by rw [Context.mode_shut, hm])
    · refine .inr ⟨by rw [Context.thread_shut, ht], ?_⟩
      cases hm : c.mode <;> simp [Context.shut, hm, Context.onHomeThread, Context.home, ht, he]
  | helper => trivial

/-- A helper thread outside all work may do what its starter may. -/
theorem onHelper (h : Fits c .free) : Fits { c with thread := .helper } .free :=
  h.imp_right fun ⟨_, hb, he⟩ => ⟨Thread.noConfusion, hb, he⟩

theorem offHelper {d : Context} (h : Fits d .free) (hc : Fits c .free) (hm : d.mode = c.mode) :
    Fits { d with thread := c.thread } .free := by
  rcases hc with hi | ⟨ht, _, _⟩
  · exact .inl (hm.trans hi)
  · exact h.imp_right fun ⟨_, hb, he⟩ => ⟨ht, hb, he⟩

end Fits

theorem Follows.refl {place : Place} {s : Scene (Run δ)} (h : Fits s.context place) :
    Follows place s (.ok (), s) (.done, Action.plain s) :=
  ⟨rfl, rfl, h, rfl, rfl, fun _ => rfl⟩

theorem Follows.record {place : Place} {s t : Scene (Run δ)} {p : Plain δ} {e : Entry δ}
    (h : Follows place s (.ok (), t) (.done, p)) (he : e.isPlain = true) :
    Follows place s (.ok (), withEntry e t) (.done, p.add e) :=
  ⟨rfl, by rw [plain_withEntry he, h.plain], h.fits, h.mode, h.thread, h.kept⟩

theorem Follows.unseen {place : Place} {s : Scene (Run δ)} {e : Entry δ}
    (h : Fits s.context place) (he : e.isPlain = false) :
    Follows place s (.ok (), withEntry e s) (.done, Action.plain s) :=
  ⟨rfl, plain_withEntry_of_not he s, h, rfl, rfl, fun _ => rfl⟩

theorem Follows.trans {place : Place} {s t : Scene (Run δ)} {p : Plain δ}
    {r : Except Abort Unit × Scene (Run δ)} {e : Finish × Plain δ}
    (h : Follows place s (.ok (), t) (.done, p)) (h' : Follows place t r e) :
    Follows place s r e :=
  ⟨h'.result, h'.plain, h'.fits, h'.mode.trans h.mode, h'.thread.trans h.thread,
    fun hp => (h'.kept hp).trans (h.kept hp)⟩

@[simp]
theorem plain_inside (s : Scene (Run δ)) : plain { s with context := s.context.inside } = plain s := by
  simp [plain]

theorem follows_shutdown {place : Place} {s : Scene (Run δ)} (h : Fits s.context place)
    (hp : place ≠ .helper) :
    Follows place s (Act.shutdown s) (.done, { Action.plain s with running := false }) := by
  have hb : s.context.StaysHere ∨ s.context.loop.busy = false := by
    cases place with
    | free => exact h.imp .inl fun hi => hi.2.1
    | work => exact .inl (Context.staysHere_iff.mpr (h.imp_right And.left))
    | helper => exact absurd rfl hp
  rw [Act.shutdown_apply hb]
  exact ⟨rfl, by simp [plain], h.shut, Context.mode_shut _, Context.thread_shut _,
    fun he => absurd he hp⟩

def Finish.outcome : Finish → Except Abort Unit
  | done => .ok ()
  | panicked => .error (.failed (.dispatch .workPanicked))

/-- The evaluator and the context agree on what is left of a panic in work. -/
theorem follows_contained {place : Place} {s : Scene (Run δ)} {work : Act (Run δ) Unit}
    {e : Finish × Plain δ} (h : Follows place s (work s) e) :
    ∃ t, Act.contained work s = (e.1.outcome, t) ∧ Follows place s (.ok (), t) (.done, e.2) := by
  obtain ⟨finish, p⟩ := e
  rcases hw : work s with ⟨r, t⟩
  rw [hw] at h
  cases finish with
  | done =>
    have hr : r = .ok () := h.result
    refine ⟨t, by rw [Act.contained_apply_ne (by simp [hw, hr]), hw, hr]; rfl, ?_⟩
    exact ⟨rfl, h.plain, h.fits, h.mode, h.thread, h.kept⟩
  | panicked =>
    have hr : r = .error .panicked := h.result
    refine ⟨{ t with notices := t.notices ++ [.workPanicked] }, ?_, ?_⟩
    · rw [Act.contained_apply, hw, hr]
      rfl
    · exact ⟨rfl, h.plain, h.fits, h.mode, h.thread, h.kept⟩

/-- Work that follows the evaluator where it runs also does so for the one who hands it over. -/
theorem follows_runSync {place : Place} {s : Scene (Run δ)} {work : Act (Run δ) Unit}
    {e : Finish × Plain δ} (h : Fits s.context place) (hp : place ≠ .helper)
    (hr : s.context.running = true)
    (hw : Follows .work { s with context := s.context.inside }
      (work { s with context := s.context.inside }) e) :
    ∃ t, Act.runSync work s = (e.1.outcome, t) ∧ Follows place s (.ok (), t) (.done, e.2) := by
  obtain ⟨t, ht, hf⟩ := follows_contained hw
  refine ⟨{ t with context := s.context.outside t.context }, ?_, ?_⟩
  · rw [Act.runSync_apply_of_serves (h.serves hp hr), ht]
  · have hm : t.context.mode = s.context.mode := hf.mode.trans (Context.mode_inside _)
    refine ⟨rfl, ?_, h.outside hp hf.fits hm, ?_, Context.thread_outside hf.thread,
      fun he => absurd he hp⟩
    · simpa [plain] using hf.plain
    · rw [Context.mode_outside, hm]

theorem perform_run (result : δ) (body : List (Action δ)) (s : Scene (Run δ)) :
    perform (.run result body) s =
      match Act.runSync (performAll body) s with
      | (.ok _, t) => (.ok (), withEntry (.run (.ok result)) t)
      | (.error (.failed (.dispatch d)), t) => (.ok (), withEntry (.run (.error d)) t)
      | (.error e, t) => (.error e, t) := by
  rw [perform, Act.bind_apply, Act.attempt_apply]
  rcases Act.runSync (performAll body) s with ⟨r, t⟩
  rcases r with (f | _ | _) | _
  · cases f <;> rfl
  all_goals rfl

theorem perform_thread (body : List (Action δ)) (s : Scene (Run δ)) :
    perform (.thread body) s =
      match Act.onThread .helper (performAll body) s with
      | (.ok _, t) => (.ok (), withEntry (.thread false) t)
      | (.error .panicked, t) => (.ok (), withEntry (.thread true) t)
      | (.error e, t) => (.error e, t) := by
  rw [perform, Act.bind_apply, Act.attempt_apply]
  rcases Act.onThread .helper (performAll body) s with ⟨r, t⟩
  rcases r with (f | _ | _) | _ <;> rfl

theorem performAll_cons (a : Action δ) (as : List (Action δ)) (s : Scene (Run δ)) :
    performAll (a :: as) s =
      match perform a s with
      | (.ok _, t) => performAll as t
      | (.error e, t) => (.error e, t) := by
  rw [performAll, Act.bind_apply]
  rcases perform a s with ⟨_ | _, _⟩ <;> rfl

def onHelper (s : Scene (Run δ)) : Scene (Run δ) :=
  { s with context := { s.context with thread := .helper } }

theorem follows_onHelper {place inner : Place} {s : Scene (Run δ)} {body : Act (Run δ) Unit}
    {e : Finish × Plain δ} (hb : Follows inner (onHelper s) (body (onHelper s)) e)
    (hf : Fits { (body (onHelper s)).2.context with thread := s.context.thread } place)
    (hk : place = .helper →
      { (body (onHelper s)).2.context with thread := s.context.thread } = s.context) :
    ∃ t, Act.onThread .helper body s = (e.1.result, t) ∧
      Follows place s (.ok (), t) (.done, e.2) := by
  rw [Act.onThread_apply]
  exact ⟨_, Prod.ext hb.result rfl, rfl, hb.plain, hf, hb.mode, rfl, hk⟩

/-- A helper thread inside work leaves the context as it was. -/
theorem follows_onHelper_of_kept {place : Place} {s : Scene (Run δ)} {body : Act (Run δ) Unit}
    {e : Finish × Plain δ} (h : Fits s.context place)
    (hb : Follows .helper (onHelper s) (body (onHelper s)) e) :
    ∃ t, Act.onThread .helper body s = (e.1.result, t) ∧
      Follows place s (.ok (), t) (.done, e.2) := by
  have hk : { (body (onHelper s)).2.context with thread := s.context.thread } = s.context := by
    rw [hb.kept rfl]
    rfl
  exact follows_onHelper hb (hk ▸ h) fun _ => hk

mutual

/-- Both contexts do what the evaluator says, wherever an action stands. -/
theorem follows_perform (a : Action δ) {place : Place} {s : Scene (Run δ)}
    (h : Fits s.context place) (ht : tame place a = true) :
    Follows place s (perform a s) (evaluate a (plain s)) := by
  match a with
  | .push value =>
    rw [perform, evaluate]
    exact (Follows.refl h).record rfl
  | .panic =>
    rw [perform, evaluate]
    exact ⟨rfl, rfl, h, rfl, rfl, fun _ => rfl⟩
  | .running =>
    rw [perform, evaluate]
    exact (Follows.refl h).record rfl
  | .isUi =>
    rw [perform, evaluate]
    exact .unseen h rfl
  | .name =>
    rw [perform, evaluate]
    exact .unseen h rfl
  | .assert =>
    rw [perform, evaluate]
    exact .unseen h rfl
  | .debug =>
    rw [perform, evaluate]
    exact .unseen h rfl
  | .shutdown =>
    have hp : place ≠ .helper := by
      rintro rfl
      simp [tame] at ht
    have hs := follows_shutdown h hp
    have hr : (Act.shutdown s).1 = .ok () := hs.result
    rw [perform, Act.bind_apply_ok (Prod.ext hr rfl), evaluate]
    rw [show Act.shutdown s = (.ok (), (Act.shutdown s).2) from Prod.ext hr rfl] at hs
    exact hs.record rfl
  | .run result body =>
    have hp : place ≠ .helper := by
      rintro rfl
      simp [tame] at ht
    have hb : tameAll .work body = true := by
      cases place <;> first | exact absurd rfl hp | simpa [tame] using ht
    rw [perform_run, evaluate]
    cases hr : s.context.running with
    | false =>
      rw [Act.runSync_apply_of_stopped hr, if_neg (by simp [plain, hr])]
      exact (Follows.refl h).record rfl
    | true =>
      have hf := follows_performAll body (s := { s with context := s.context.inside })
        (h.inside hp hr) hb
      rw [plain_inside] at hf
      obtain ⟨t, hrun, hft⟩ := follows_runSync h hp hr hf
      rw [hrun, if_pos (by simp [plain, hr])]
      rcases he : evaluateAll body (plain s) with ⟨finish, q⟩
      rw [he] at hft
      cases finish with
      | done => exact hft.record rfl
      | panicked => exact hft.record rfl
  | .thread body =>
    obtain ⟨t, hrun, hft⟩ : ∃ t, Act.onThread .helper (performAll body) s =
        ((evaluateAll body (plain s)).1.result, t) ∧
        Follows place s (.ok (), t) (.done, (evaluateAll body (plain s)).2) := by
      cases place with
      | free =>
        have hf := follows_performAll body (s := onHelper s) h.onHelper (by simpa [tame] using ht)
        exact follows_onHelper hf (hf.fits.offHelper h hf.mode) nofun
      | work =>
        have hf : Fits (onHelper s).context .helper := trivial
        exact follows_onHelper_of_kept h (follows_performAll body hf (by simpa [tame] using ht))
      | helper =>
        have hf : Fits (onHelper s).context .helper := trivial
        exact follows_onHelper_of_kept h (follows_performAll body hf (by simpa [tame] using ht))
    rw [perform_thread, evaluate, hrun]
    rcases he : evaluateAll body (plain s) with ⟨finish, q⟩
    rw [he] at hft
    cases finish with
    | done => exact hft.record rfl
    | panicked => exact hft.record rfl

/-- By induction on the program, with the place at which it stands. -/
theorem follows_performAll (as : List (Action δ)) {place : Place} {s : Scene (Run δ)}
    (h : Fits s.context place) (ht : tameAll place as = true) :
    Follows place s (performAll as s) (evaluateAll as (plain s)) := by
  match as with
  | [] =>
    rw [performAll, evaluateAll]
    exact .refl h
  | a :: as =>
    obtain ⟨ha, has⟩ : tame place a = true ∧ tameAll place as = true := by
      simpa [tameAll] using ht
    have hf := follows_perform a h ha
    rw [performAll_cons, evaluateAll]
    rcases he : evaluate a (plain s) with ⟨finish, q⟩
    rcases hr : perform a s with ⟨r, t⟩
    rw [he, hr] at hf
    cases finish with
    | done =>
      obtain rfl : r = .ok () := hf.result
      obtain rfl : plain t = q := hf.plain
      exact hf.trans (follows_performAll as hf.fits has)
    | panicked =>
      obtain rfl : r = .error .panicked := hf.result
      exact hf

end

theorem fits_start {mode : Mode} {settings : Settings} {s : Scene (Run δ)}
    (h : start mode settings = .ok s) : Fits s.context .free ∧ plain s = {} := by
  cases mode with
  | inPlace =>
    cases h
    exact ⟨.inl rfl, rfl⟩
  | dedicated =>
    cases hl : Context.launch .dedicated settings with
    | error e =>
      rw [start, hl] at h
      cases h
    | ok c =>
      obtain ⟨_, _, rfl⟩ := (Context.launch_dedicated_eq_ok_iff settings c).mp hl
      rw [start, hl] at h
      cases h
      exact ⟨.inr ⟨Thread.noConfusion, rfl, rfl⟩, rfl⟩

/-- A program whose helper threads inside work are tame ends in the same way on an inline and on a
dedicated context, with the same flag and the same trace: those of the plain evaluation. -/
theorem both_modes_evaluate_plainly {settings : Settings} {s t : Scene (Run δ)}
    (hs : start .inPlace settings = .ok s) (ht : start .dedicated settings = .ok t)
    {body : List (Action δ)} (hb : tameAll .free body = true) :
    ((performAll body s).1 = (evaluateAll body {}).1.result ∧
      plain (performAll body s).2 = (evaluateAll body {}).2) ∧
    ((performAll body t).1 = (evaluateAll body {}).1.result ∧
      plain (performAll body t).2 = (evaluateAll body {}).2) := by
  obtain ⟨hfs, hps⟩ := fits_start hs
  obtain ⟨hft, hpt⟩ := fits_start ht
  have hss := follows_performAll body hfs hb
  have htt := follows_performAll body hft hb
  rw [hps] at hss
  rw [hpt] at htt
  exact ⟨⟨hss.result, hss.plain⟩, htt.result, htt.plain⟩

/-- Work shuts its own context down, is refused a further piece of work, and then panics. -/
theorem both_modes_evaluate_shutdown_in_work :
    let body : List (Action Nat) :=
      [.thread [.run 1 [.push 1, .shutdown, .run 2 [.push 2], .thread [.running, .panic], .panic]],
        .name, .shutdown, .run 3 []]
    ∃ s t : Scene (Run Nat), start .inPlace {} = .ok s ∧ start .dedicated {} = .ok t ∧
      tameAll .free body = true ∧ plain (performAll body s).2 = plain (performAll body t).2 ∧
      plain (performAll body t).2 = ⟨false,
        [.push 1, .shutdown, .run (.error .stopped), .running false, .thread true,
          .run (.error .workPanicked), .thread false, .shutdown, .run (.error .stopped)]⟩ := by
  intro body
  have hs : start .inPlace {} = .ok (⟨{ mode := .inPlace }, [], ⟨"nativeui-main", []⟩⟩ : Scene (Run Nat)) :=
    rfl
  have ht : start .dedicated {} =
      .ok (⟨{ mode := .dedicated }, [.contextStarted], ⟨"nativeui-main", []⟩⟩ : Scene (Run Nat)) := rfl
  have hb : tameAll .free body = true := rfl
  obtain ⟨⟨_, hps⟩, _, hpt⟩ := both_modes_evaluate_plainly hs ht hb
  exact ⟨_, _, hs, ht, hb, hps.trans hpt.symm, hpt.trans rfl⟩

end Action
end ScreenDeck
