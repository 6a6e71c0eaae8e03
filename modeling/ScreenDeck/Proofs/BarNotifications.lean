import ScreenDeck.Proofs.MenuRemovals

/-! What a container hears of the bar of a screen. The flag of a screen is turned and its container is told
at once, or the manager starts over and nobody is told. So the container hears of each turn when the flag
has just been turned, in whatever way it calls back. -/

namespace ScreenDeck

/-- What a container turns the flag to when it has been told of this value. -/
def ContainerMode.response (value : Bool) : ContainerMode → List Bool
  | setsVisible w => if w = value then [] else [w]
  | _ => []

def ContainerMode.echo (mode : ContainerMode) (value : Bool) : List Bool := value :: mode.response value

theorem ContainerMode.length_echo_le (mode : ContainerMode) (value : Bool) :
    (mode.echo value).length ≤ 2 := by
  cases mode with
  | setsVisible w => by_cases hw : w = value <;> simp [echo, response, hw]
  | _ => simp [echo, response]

namespace Deck

variable {d e f : Deck} {s : Scene Deck} {r : Ref .screen} {k : Ref .container}

/-! What containers do not hear of. -/

namespace Hushed

theorem modifyRegistry (m : Ref .manager) (registry : Registry) (d : Deck) :
    Hushed d (d.modifyManager m fun x => { x with registry }) where
  toggles := rfl
  containers := rfl
  flags q := Store.map_get?_modify d.managers m q fun _ => rfl
  holders _ := rfl

end Hushed

instance : Act.Steady (Act.OnState Hushed) := Act.steady_onState (fun _ => .of_eq rfl) Hushed.trans

instance : Strolling Hushed where
  hushed _ _ h := h
  letGo := spans_letGo (fun _ => .bury _ _) fun x d => .release x d
  retire _ := (Hushed.release _ _).trans (.modifyScreen _ _ fun _ => rfl)

instance : Reshaping Hushed where
  grid _ _ _ := .of_eq rfl
  tree _ _ _ := .of_eq rfl

theorem admits_hushed (v : Event) : Admits Hushed v := fun hm => by cases hm <;> exact .of_eq rfl

/-! A screen in a container. -/

structure Lodged (k : Ref .container) (r : Ref .screen) (d : Deck) : Prop extends HeldBy k r d where
  manager : (d.managers.get? (d.screens.get r).manager).isSome

theorem Equipped.lodged (hd : d.Equipped) (hk : HeldBy k r d) : Lodged k r d where
  toHeldBy := hk
  manager := by
    cases hx : d.screens.get? r with
    | none =>
      have hparent := hk.parent
      rw [Store.get, hx] at hparent
      cases hparent
    | some x =>
      rw [Store.get_of_get? hx]
      exact hd.manager hx

structure Stays (k : Ref .container) (r : Ref .screen) (d e : Deck) : Prop where
  holder : (e.screens.get r).holder = (d.screens.get r).holder
  called : (e.containers.get k).handle = (d.containers.get k).handle
  alive : (e.containers.get k).alive = (d.containers.get k).alive
  manager : (e.managers.get? (d.screens.get r).manager).isSome =
    (d.managers.get? (d.screens.get r).manager).isSome

namespace Stays

theorem refl (d : Deck) : Stays k r d d := ⟨rfl, rfl, rfl, rfl⟩

theorem parts (h : Stays k r d e) : (e.screens.get r).handle = (d.screens.get r).handle ∧
    (e.screens.get r).parent = (d.screens.get r).parent ∧
    (e.screens.get r).manager = (d.screens.get r).manager := by
  have hholder := h.holder
  simp only [Screen.holder, Prod.mk.injEq] at hholder
  exact hholder

theorem trans (h : Stays k r d e) (h' : Stays k r e f) : Stays k r d f where
  holder := h'.holder.trans h.holder
  called := h'.called.trans h.called
  alive := h'.alive.trans h.alive
  manager := by
    have hmanager := h'.manager
    rw [h.parts.2.2] at hmanager
    exact hmanager.trans h.manager

theorem lodged (h : Stays k r d e) (hk : Lodged k r d) : Lodged k r e where
  parent := h.parts.2.1.trans hk.parent
  alive := h.alive.trans hk.alive
  manager := by
    rw [h.parts.2.2, h.manager]
    exact hk.manager

theorem tell_setBar (k : Ref .container) (r : Ref .screen) (value : Bool) (d : Deck) :
    Stays k r d ((d.setBar r value).tell k r) where
  holder := rfl
  called := rfl
  alive := rfl
  manager := Store.isSome_get?_modify d.managers _ _ _

theorem resetBar (k : Ref .container) (r : Ref .screen) (d : Deck) : Stays k r d (d.resetBar r) where
  holder := rfl
  called := rfl
  alive := rfl
  manager := Store.isSome_get?_modify d.managers _ _ _

end Stays

/-- Nothing happens to the flag of the screen. Of other things there may be notifications. -/
structure Elsewhere (k : Ref .container) (r : Ref .screen) (others : List Toggle) (d e : Deck) : Prop
    extends Stays k r d e where
  flag : e.barVisible r = d.barVisible r
  toggles : e.toggles = d.toggles ++ others

theorem Hushed.barVisible (h : Hushed d e) (r : Ref .screen) : e.barVisible r = d.barVisible r := by
  have hmanager : (e.screens.get r).manager = (d.screens.get r).manager := congrArg (·.2.2) (h.holders r)
  have hflag := congrArg (·.getD (default : BarManager).visible) (h.flags (d.screens.get r).manager)
  simp only [Option.getD_map] at hflag
  rw [Deck.barVisible, hmanager]
  exact hflag

theorem Hushed.elsewhere (h : Hushed d e) (k : Ref .container) (r : Ref .screen) :
    Elsewhere k r [] d e where
  holder := h.holders r
  called := by rw [h.containers]
  alive := by rw [h.containers]
  manager := by
    have hthere := congrArg Option.isSome (h.flags (d.screens.get r).manager)
    rwa [Option.isSome_map, Option.isSome_map] at hthere
  flag := h.barVisible r
  toggles := by rw [h.toggles, List.append_nil]

/-! The flag and who hears of it. -/

inductive Notification where
  | turned (value : Bool)
  | other (t : Toggle)

/-- What the container was told when the flag was turned: the value that the screen had by then. -/
def Notification.toggle (container screen : Handle) : Notification → Toggle
  | turned value => ⟨container, screen, value⟩
  | other t => t

/-- What happens to the flag of the screen. When it is turned, the bar is set and the container is told of
it before anything else happens. When the manager starts over, nobody is told. -/
inductive Turned (k : Ref .container) (r : Ref .screen) (d : Deck) : List Notification → Deck → Prop
  | start : Turned k r d [] d
  | turn {log : List Notification} {e : Deck} {value : Bool} (h : Turned k r d log e)
      (hv : e.barVisible r ≠ value) :
      Turned k r d (log ++ [.turned value]) ((e.setBar r value).tell k r)
  | reset {log : List Notification} {e : Deck} (h : Turned k r d log e) : Turned k r d log (e.resetBar r)
  | aside {log : List Notification} {others : List Toggle} {e f : Deck} (h : Turned k r d log e)
      (he : Elsewhere k r others e f) : Turned k r d (log ++ others.map .other) f

namespace Turned

variable {log log' : List Notification}

theorem hushed (h : Turned k r d log e) (he : Hushed e f) : Turned k r d log f := by
  have hnext := h.aside (he.elsewhere k r)
  rwa [List.map_nil, List.append_nil] at hnext

theorem trans (h : Turned k r d log e) (h' : Turned k r e log' f) : Turned k r d (log ++ log') f := by
  induction h' with
  | start => rwa [List.append_nil]
  | turn _ hv ih =>
    rw [← List.append_assoc]
    exact ih.turn hv
  | reset _ ih => exact ih.reset
  | aside _ he ih =>
    rw [← List.append_assoc]
    exact ih.aside he

theorem stays (h : Turned k r d log e) : Stays k r d e := by
  induction h with
  | start => exact .refl d
  | turn _ _ ih => exact ih.trans (.tell_setBar k r _ _)
  | reset _ ih => exact ih.trans (.resetBar k r _)
  | aside _ he ih => exact ih.trans he.toStays

/-- The container hears of every turn in its order, and of nothing else that happens to the flag. -/
theorem toggles (h : Turned k r d log e) (hk : Lodged k r d) : e.toggles = d.toggles ++
    log.map (Notification.toggle (d.containers.get k).handle (d.screens.get r).handle) := by
  induction h with
  | start => rw [List.map_nil, List.append_nil]
  | @turn log e value h hv ih =>
    have hflag : (e.setBar r value).barVisible r = value :=
      barVisible_setBar (h.stays.lodged hk).manager value
    have htold : ((e.setBar r value).tell k r).toggles = e.toggles ++
        [⟨(e.containers.get k).handle, (e.screens.get r).handle, (e.setBar r value).barVisible r⟩] := rfl
    rw [htold, hflag, h.stays.called, h.stays.parts.1, ih, List.map_append, List.append_assoc]
    rfl
  | reset _ ih => exact ih
  | aside _ he ih =>
    rw [he.toggles, ih, List.map_append, List.append_assoc, List.map_map]
    congr 2
    exact (List.map_id _).symm

end Turned

/-! Calls that turn the flag. -/

theorem turned_removeOptionsMenu (s : Scene Deck) :
    Turned k r s.state [] (removeOptionsMenu r s).2.state := by
  have hreset : Turned k r s.state [] (s.state.resetBar r) := .reset .start
  have hreleased (d : Deck) : Hushed d (d.releaseRow r) := .of_eq rfl
  have hattached (bar : Option (Ref .bar)) (d : Deck) : Hushed d (d.attachBar bar) := by
    cases bar <;> exact .of_eq rfl
  rw [removeOptionsMenu_state]
  split
  · split
    · exact (hreset.hushed (hreleased _)).hushed (hattached _ _)
    · exact hreset.hushed (hreleased _)
  · exact hreset

theorem lodged_turnedBar (hk : Lodged k r s.state) (value : Bool) :
    Lodged k r (turnedBar k r value s).state ∧ (turnedBar k r value s).state.barVisible r = value :=
  ⟨(Stays.tell_setBar k r value s.state).lodged hk, barVisible_setBar hk.manager value⟩

/-- A container that sets the flag again finds it set the time after, so it is told but once more. -/
theorem setBarVisibleWithin_of_setsVisible {w : Bool} (hk : Lodged k r s.state)
    (hmode : (s.state.containers.get k).mode = .setsVisible w) (depth : Nat) :
    setBarVisibleWithin (depth + 2) r w s =
      (.ok (), if s.state.barVisible r = w then s else turnedBar k r w s) := by
  by_cases hv : s.state.barVisible r = w
  · rw [if_pos hv, setBarVisibleWithin_apply_of_current hk.parent_apply hv]
  · obtain ⟨hk', hv'⟩ := lodged_turnedBar hk w
    rw [if_neg hv, setBarVisibleWithin_of_turn hk.toHeldBy hv, hmode]
    exact setBarVisibleWithin_apply_of_current hk'.parent_apply hv' depth

/-- How deep notifications may stand in one another makes no difference from three on. -/
theorem setBarVisibleWithin_eq (hk : Lodged k r s.state) (depth : Nat) (value : Bool) :
    setBarVisibleWithin (depth + 3) r value s = setBarVisible r value s := by
  by_cases hv : s.state.barVisible r = value
  · rw [setBarVisible_apply_of_current hk.parent_apply hv,
      setBarVisibleWithin_apply_of_current hk.parent_apply hv]
  · obtain ⟨hk', -⟩ := lodged_turnedBar hk value
    rw [setBarVisible, setBarVisibleWithin_of_turn hk.toHeldBy hv, setBarVisibleWithin_of_turn hk.toHeldBy hv]
    cases hmode : (s.state.containers.get k).mode with
    | setsVisible w =>
      have hdeep := setBarVisibleWithin_of_setsVisible (s := turnedBar k r value s) hk' hmode
      rw [respond, respond, hdeep depth, hdeep 0]
    | _ => simp only [respond]

/-- A container that turns the flag back is told of that as well, and then has nothing left to do. -/
theorem turned_respond {value : Bool} {mode : ContainerMode} (hk : Lodged k r s.state)
    (hmode : (s.state.containers.get k).mode = mode) (hv : s.state.barVisible r = value) :
    Turned k r s.state ((mode.response value).map .turned)
      (respond (setBarVisibleWithin 2 r) r mode s).2.state := by
  cases mode with
  | plain => exact .start
  | refuse => exact .start
  | setsVisible w =>
    -- Either the flag has this value already, or it is turned once more, and stays so.
    rw [respond, setBarVisibleWithin_of_setsVisible hk hmode, ContainerMode.response, hv]
    by_cases hw : w = value
    · rw [if_pos hw, if_pos hw.symm]
      exact .start
    · rw [if_neg hw, if_neg fun h => hw h.symm]
      exact .turn .start fun h => hw (h.symm.trans hv)
  | shows => exact .hushed .start ((composed_showScreen (fun v _ => admits_hushed v) r).keeps s)
  | resets => exact turned_removeOptionsMenu s

namespace BarCall

variable {c : BarCall}

/-- What the flag is turned to in the course of the call. -/
def turns (k : Ref .container) (r : Ref .screen) (s : Scene Deck) (c : BarCall) : List Bool :=
  if c.Begins s ∧ s.state.barVisible r ≠ c.value then (s.state.containers.get k).mode.echo c.value else []

theorem length_turns_le (k : Ref .container) (r : Ref .screen) (s : Scene Deck) (c : BarCall) :
    (c.turns k r s).length ≤ 2 := by
  rw [turns]
  split
  · exact ContainerMode.length_echo_le _ _
  · exact Nat.zero_le 2

theorem hushed_prepare (r : Ref .screen) (d : Deck) (c : BarCall) : Hushed d (c.prepare r d) := by
  cases c <;> exact .of_eq rfl

/-- The container hears of nothing before the call comes to the bar. -/
theorem make_eq_setBarVisible_hushed (hb : c.Begins s) (hk : Lodged k r s.state) :
    ∃ u, c.make r s = setBarVisible r c.value u ∧ Hushed s.state u.state ∧ Lodged k r u.state := by
  obtain ⟨u, hmake, hu, -⟩ := make_eq_setBarVisible hb hk.parent_apply
  have hhushed : Hushed s.state u.state := hu ▸ hushed_prepare r s.state c
  exact ⟨u, hmake, hhushed, (hhushed.elsewhere k r).toStays.lodged hk⟩

/-- The container is told each value that the call turns the flag to, in the order of the turns. -/
theorem turned_make (hk : Lodged k r s.state) (c : BarCall) :
    Turned k r s.state ((c.turns k r s).map .turned) (c.make r s).2.state := by
  by_cases hb : c.Begins s
  · obtain ⟨u, hmake, hhushed, hku⟩ := make_eq_setBarVisible_hushed hb hk
    have hflag : u.state.barVisible r = s.state.barVisible r := hhushed.barVisible r
    have hprepared : Turned k r s.state [] u.state := .hushed .start hhushed
    rw [hmake, turns]
    by_cases hv : s.state.barVisible r = c.value
    · rw [if_neg fun h => h.2 hv, setBarVisible_apply_of_current hku.parent_apply (hflag.trans hv)]
      exact hprepared
    · have hvu : u.state.barVisible r ≠ c.value := fun h => hv (hflag.symm.trans h)
      obtain ⟨hkt, hvt⟩ := lodged_turnedBar hku c.value
      have hanswer := turned_respond (s := turnedBar k r c.value u) hkt rfl hvt
      rw [if_pos ⟨hb, hv⟩, ← hhushed.containers, setBarVisible,
        setBarVisibleWithin_of_turn hku.toHeldBy hvu]
      exact (hprepared.turn hvu).trans hanswer
  · obtain ⟨-, hstate⟩ := make_of_not_begins hb hk.parent_apply
    rw [turns, if_neg fun h => hb h.1, hstate]
    exact .start

/-- With a container that sets the flag again, the call succeeds as soon as it comes to the bar. -/
theorem make_fst_of_setsVisible {w : Bool} (hk : Lodged k r s.state)
    (hmode : (s.state.containers.get k).mode = .setsVisible w) (c : BarCall) :
    (c.make r s).1 = if c.Begins s then .ok () else .error s.context.refusal.1 := by
  by_cases hb : c.Begins s
  · obtain ⟨u, hmake, hhushed, hku⟩ := make_eq_setBarVisible_hushed hb hk
    rw [← hhushed.containers] at hmode
    rw [hmake, if_pos hb]
    by_cases hv : u.state.barVisible r = c.value
    · rw [setBarVisible_apply_of_current hku.parent_apply hv]
    · obtain ⟨hkt, -⟩ := lodged_turnedBar hku c.value
      have hdeep := setBarVisibleWithin_of_setsVisible (s := turnedBar k r c.value u) hkt hmode 0
      rw [setBarVisible, setBarVisibleWithin_of_turn hku.toHeldBy hv, hmode]
      exact congrArg Prod.fst hdeep
  · rw [if_neg hb]
    exact (make_of_not_begins hb hk.parent_apply).1

end BarCall
end Deck

namespace Session

open Deck
open Act (Keeps OnState)

variable {setup : Setup} {start s t : Scene Deck} {es : List Event} {r : Ref .screen}
  {k : Ref .container} {log : List Notification}

def ScreenStep.turns (k : Ref .container) (r : Ref .screen) (s : Scene Deck) : ScreenStep → List Bool
  | visible value => (BarCall.set value).turns k r s
  | enable => BarCall.enable.turns k r s
  | _ => []

def ScreenStep.LeavesParent : ScreenStep → Prop
  | parent _ | clearParent => False
  | _ => True

theorem turned_setProperty (name value : String) :
    Keeps (OnState (Turned k r · [] ·)) (setProperty r name value) := by
  unfold setProperty
  split
  · exact fun _ => .start
  · exact fun s => .hushed .start ((composed_setTitle (R := Hushed) r value).keeps s)
  · exact turned_removeOptionsMenu
  · split <;> exact fun _ => .start

/-- Of all steps on the screen, those on its bar or its menu are the only ones to concern the flag. -/
theorem turned_performOnScreen (hk : Lodged k r s.state) {step : ScreenStep} (hs : step.LeavesParent) :
    Turned k r s.state ((step.turns k r s).map .turned) (performOnScreen r step s).2.state := by
  have hother (hi : ¬ step.Itemizes) (hw : ¬ step.Stirs) :
      Hushed s.state (performOnScreen r step s).2.state :=
    (composed_performOnScreen_of r (fun v _ => admits_hushed v) (fun _ => inferInstance)
      (fun h => absurd h hi) (fun h => absurd h.stirs hw) fun h => absurd h hw).keeps s
  cases step with
  | parent name => exact hs.elim
  | clearParent => exact hs.elim
  | visible value =>
    rw [performOnScreen, outcome_snd, done_snd]
    exact BarCall.turned_make hk (.set value)
  | enable =>
    rw [performOnScreen, outcome_snd, done_snd]
    exact BarCall.turned_make hk .enable
  | removeMenu =>
    rw [performOnScreen, outcome_snd, done_snd]
    exact turned_removeOptionsMenu s
  | setProperty name value =>
    rw [performOnScreen, outcome_snd, done_snd]
    exact turned_setProperty name value s
  | register item =>
    rw [performOnScreen, outcome_snd, Act.bind_apply_ok (managerOf_apply r s), replied_snd,
      registerItem_apply]
    exact .hushed .start (.modifyRegistry _ _ _)
  | _ => exact .hushed .start (hother id id)

/-- Steps on a screen, with what is told to its container. Between the steps the context may be any other,
and anything may happen but to the flag of the screen and to who holds it. -/
inductive Visit (k : Ref .container) (r : Ref .screen) (s : Scene Deck) :
    List Notification → Scene Deck → Prop
  | start : Visit k r s [] s
  | step {log : List Notification} {t : Scene Deck} (h : Visit k r s log t) (step : ScreenStep)
      (hs : step.LeavesParent) :
      Visit k r s (log ++ (step.turns k r t).map .turned) (performOnScreen r step t).2
  | aside {log : List Notification} {others : List Toggle} {t u : Scene Deck} (h : Visit k r s log t)
      (he : Elsewhere k r others t.state u.state) : Visit k r s (log ++ others.map .other) u

theorem Visit.turned (h : Visit k r s log t) (hk : Lodged k r s.state) :
    Turned k r s.state log t.state := by
  induction h with
  | start => exact .start
  | step _ _ hs ih => exact ih.trans (turned_performOnScreen (ih.stays.lodged hk) hs)
  | aside _ he ih => exact ih.aside he

/-- Whatever is done with a screen, its container hears of the turns of the flag, each once and with the new
value, and of nothing else. A container that sets the flag whenever it is told hears of at most two turns,
and then the call returns. -/
theorem told_of_every_turn (hs : setup.start = .ok start) (h : History start.state es s.state)
    (hk : HeldBy k r s.state) (hv : Visit k r s log t) :
    let told := Notification.toggle (s.state.containers.get k).handle (s.state.screens.get r).handle
    HeldBy k r t.state ∧ Turned k r s.state log t.state ∧
      t.state.toggles = s.state.toggles ++ log.map told ∧
      (∀ c : BarCall, (c.make r t).2.state.toggles =
          t.state.toggles ++ (c.turns k r t).map (told ∘ .turned) ∧ (c.turns k r t).length ≤ 2) ∧
      (∀ (c : BarCall) (w : Bool), (t.state.containers.get k).mode = .setsVisible w →
        (c.make r t).1 = if c.Begins t then .ok () else .error t.context.refusal.1) ∧
      ∀ depth value, setBarVisibleWithin (depth + 3) r value t = setBarVisible r value t := by
  intro told
  have hlodged : Lodged k r s.state := ((equipped_start hs).history h).lodged hk
  have hturned := hv.turned hlodged
  have hstays := hturned.stays
  have hkt : Lodged k r t.state := hstays.lodged hlodged
  refine ⟨hkt.toHeldBy, hturned, hturned.toggles hlodged, fun c => ⟨?_, c.length_turns_le k r t⟩,
    fun c w hmode => c.make_fst_of_setsVisible hkt hmode, setBarVisibleWithin_eq hkt⟩
  have hmade := (BarCall.turned_make hkt c).toggles hkt
  rwa [hstays.called, hstays.parts.1, List.map_map] at hmade

def hidingParent : Scene Deck :=
  let d := (makeScreen ⟨1⟩ { newSession.state with
    containers := (newSession.state.containers.add { handle := ⟨9⟩, mode := .setsVisible false }).2 }).2
  { newSession with state := d.modifyScreen ⟨0⟩ fun x => { x with parent := some (.container ⟨0⟩) } }

theorem history_hidingParent : History newSession.state [] hidingParent.state :=
  ((History.start.move (.makeContainer { handle := ⟨9⟩, mode := .setsVisible false })).move
    (.makeScreen ⟨1⟩)).move (.parent ⟨0⟩ (some (.container ⟨0⟩)))

/-- The bar is shown and hidden again, and the container hears of both. Of the removal it does not hear. -/
theorem hiding_parent_is_told_twice :
    let s := hidingParent
    let t := (performOnScreen ⟨0⟩ .enable s).2
    let u := (performOnScreen ⟨0⟩ .removeMenu t).2
    Setup.start {} = .ok newSession ∧ History newSession.state [] s.state ∧ HeldBy ⟨0⟩ ⟨0⟩ s.state ∧
      Visit ⟨0⟩ ⟨0⟩ s [.turned true, .turned false] u ∧
      u.state.toggles = [⟨⟨9⟩, ⟨1⟩, true⟩, ⟨⟨9⟩, ⟨1⟩, false⟩] ∧
      (BarCall.make ⟨0⟩ (.set true) u).1 = .ok () := by
  intro s t u
  have hk : HeldBy ⟨0⟩ ⟨0⟩ s.state := ⟨rfl, rfl⟩
  have hturns : ScreenStep.turns ⟨0⟩ ⟨0⟩ s .enable = [true, false] := by decide
  have hmode : (u.state.containers.get ⟨0⟩).mode = .setsVisible false := rfl
  have hvisit : Visit ⟨0⟩ ⟨0⟩ s [.turned true, .turned false] u := by
    have hshown := (Visit.start (k := ⟨0⟩) (r := ⟨0⟩) (s := s)).step .enable trivial
    rw [hturns] at hshown
    exact hshown.step .removeMenu trivial
  clear_value u
  obtain ⟨-, -, htoggles, -, hends, -⟩ :=
    told_of_every_turn start_newSession history_hidingParent hk hvisit
  exact ⟨start_newSession, history_hidingParent, hk, hvisit, htoggles,
    (hends (.set true) false hmode).trans (if_pos trivial)⟩

end Session
end ScreenDeck
