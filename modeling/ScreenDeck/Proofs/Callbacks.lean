import ScreenDeck.Proofs.Spans

/-! Containers that call back. A container that is told of the bar of a child may set the bar again,
show the child or take its menu away. What it does depends on its mode alone. -/

namespace ScreenDeck.Deck

open Act (Keeps OnState)

variable {d e : Deck} {s : Scene Deck} {r : Ref .screen}
  {T : Scene Deck → Scene Deck → Prop} [Act.Steady T]

theorem parent_cases (r : Ref .screen) (s : Scene Deck) : (∃ e, parent r s = (.error e, s)) ∨
    parent r s = (.ok (s.state.screens.get r).parent, s) := by
  rw [parent, Act.bind_apply_ok (Act.state_apply s)]
  cases hp : (s.state.screens.get r).parent with
  | none => exact .inr rfl
  | some q =>
    cases q
    all_goals
      dsimp only
      split
      · exact .inr rfl
      · exact .inl ⟨_, rfl⟩

theorem setManagerVisible_state (m : Ref .manager) (value : Bool) (s : Scene Deck) :
    (setManagerVisible m value s).2.state.screens = s.state.screens ∧
      (setManagerVisible m value s).2.state.containers = s.state.containers := by
  rw [setManagerVisible, Act.bind_apply_ok (Act.state_apply s)]
  split <;> exact ⟨rfl, rfl⟩

/-- The relation holds over what the container of the screen calls back. -/
def CallbackKeeps (T : Scene Deck → Scene Deck → Prop) (r : Ref .screen) (d : Deck) : Prop :=
  ∀ k, (d.screens.get r).parent = some (.container k) →
    ((d.containers.get k).mode = .shows → Keeps T (showScreen r)) ∧
      ((d.containers.get k).mode = .resets → Keeps T (removeOptionsMenu r))

omit [Act.Steady T] in
theorem CallbackKeeps.congr (h : CallbackKeeps T r d) (hs : e.screens = d.screens)
    (hc : e.containers = d.containers) : CallbackKeeps T r e := by
  intro k hk
  rw [hs] at hk
  rw [hc]
  exact h k hk

omit [Act.Steady T] in
theorem CallbackKeeps.always (hshow : Keeps T (showScreen r)) (hremove : Keeps T (removeOptionsMenu r)) :
    CallbackKeeps T r d := fun _ _ => ⟨fun _ => hshow, fun _ => hremove⟩

def reserve (g : Ref .grid) : Do Bool := change fun d =>
  let (reserved, grid) := (d.grids.get g).reserveRow d.settings.barExtent
  (reserved, d.modifyGrid g fun _ => grid)

theorem reserve_apply (g : Ref .grid) (s : Scene Deck) :
    reserve g s = (.ok ((s.state.grids.get g).reserveRow s.state.settings.barExtent).1, { s with
      state := s.state.modifyGrid g fun _ =>
        ((s.state.grids.get g).reserveRow s.state.settings.barExtent).2 }) := rfl

theorem runSync_reserve_apply_of_serves (hs : s.context.Serves) (g : Ref .grid) :
    ∃ reserved c x, Act.runSync (reserve g) s = (.ok reserved, { s with
      context := c, state := s.state.modifyGrid g fun _ => x }) := by
  rw [Act.runSync_apply_of_serves hs, Act.contained_apply, reserve_apply]
  exact ⟨_, _, _, rfl⟩

theorem runSync_reserve_state (g : Ref .grid) (s : Scene Deck) :
    (Act.runSync (reserve g) s).2.state.screens = s.state.screens ∧
      (Act.runSync (reserve g) s).2.state.containers = s.state.containers := by
  by_cases hs : s.context.Serves
  · obtain ⟨reserved, c, x, hr⟩ := runSync_reserve_apply_of_serves hs g
    rw [hr]
    exact ⟨rfl, rfl⟩
  · rw [Act.runSync_apply_of_not_serves _ hs]
    exact ⟨rfl, rfl⟩

theorem enableBar_eq (r : Ref .screen) : enableBar r = (do
    discard (parent r)
    let d ← Act.state
    let reserved ← Act.runSync (reserve (d.screens.get r).grid)
    if reserved then Act.note .rowReserved
    setBarVisible r true) := rfl

theorem discard_parent_apply (r : Ref .screen) (s : Scene Deck) :
    (discard (parent r) : Do Unit) s = ((parent r s).1.map fun _ => (), s) := by
  change (parent r >>= fun _ => pure ()) s = _
  rw [Act.bind_apply]
  obtain ⟨e, hparent⟩ | hparent := parent_cases r s <;> rw [hparent] <;> rfl

/-- Enabling a bar is a reservation and then a turn of the flag, unless the parent has been dropped. -/
theorem enableBar_apply (r : Ref .screen) (s : Scene Deck) :
    enableBar r s = match (parent r s).1 with
      | .error e => (.error e, s)
      | .ok _ => (do
          let reserved ← Act.runSync (reserve (s.state.screens.get r).grid)
          if reserved then Act.note .rowReserved
          setBarVisible r true) s := by
  have hdiscard := discard_parent_apply r s
  rw [enableBar_eq]
  rcases hp : (parent r s).1 with e | p
  · rw [hp] at hdiscard
    rw [Act.bind_apply, hdiscard]
    rfl
  · rw [hp] at hdiscard
    rw [Act.bind_apply_ok hdiscard, Act.bind_apply_ok (Act.state_apply s)]

/-! Setting the bar. The flag and the bar are set, the container is told, and the rest is up to the
container. -/

section Turning

variable {k : Ref .container}

theorem parent_apply_of_container (hk : (s.state.screens.get r).parent = some (.container k)) :
    parent r s = if (s.state.containers.get k).alive then (.ok (some (.container k)), s)
      else (.error (.failed (.invalidState .parentDropped)), s) := by
  rw [parent, Act.bind_apply_ok (Act.state_apply s), hk]
  dsimp only
  split <;> rfl

structure HeldBy (k : Ref .container) (r : Ref .screen) (d : Deck) : Prop where
  parent : (d.screens.get r).parent = some (.container k)
  alive : (d.containers.get k).alive = true

theorem HeldBy.parent_apply (h : HeldBy k r s.state) :
    Deck.parent r s = (.ok (some (.container k)), s) := by
  rw [parent_apply_of_container h.parent, if_pos h.alive]

theorem setManagerVisible_apply (m : Ref .manager) (value : Bool) (s : Scene Deck) :
    setManagerVisible m value s = if (s.state.managers.get m).visible = value then (.ok false, s)
      else (.ok true, { s with
        state := (s.state.modifyManager m fun x => { x with visible := value }).modifyBar
          (s.state.managers.get m).bar fun x => { x with visible := value }
        notices := s.notices ++ [.barVisibilityChanged] }) := by
  rw [setManagerVisible, Act.bind_apply_ok (Act.state_apply s)]
  split <;> rfl

/-- The flag and the bar of the screen are set, and nobody has been told. -/
def setBar (r : Ref .screen) (value : Bool) (d : Deck) : Deck :=
  let m := (d.screens.get r).manager
  (d.modifyManager m fun x => { x with visible := value }).modifyBar (d.managers.get m).bar
    fun x => { x with visible := value }

/-- The container has been told, whatever it makes of it. -/
def tell (k : Ref .container) (r : Ref .screen) (d : Deck) : Deck :=
  { d with toggles := d.toggles ++
      [⟨(d.containers.get k).handle, (d.screens.get r).handle, d.barVisible r⟩] }

def respond (setVisible : Bool → Do Unit) (r : Ref .screen) : ContainerMode → Do Unit
  | .plain => pure ()
  | .refuse => Act.fail (.invalidState .containerRefused)
  | .setsVisible value => setVisible value
  | .shows => showScreen r
  | .resets => removeOptionsMenu r

theorem notifyContainer_apply (setVisible : Bool → Do Unit) (k : Ref .container) (r : Ref .screen)
    (s : Scene Deck) : notifyContainer setVisible k r s =
      respond setVisible r (s.state.containers.get k).mode { s with state := s.state.tell k r } := by
  rw [notifyContainer, Act.bind_apply_ok (Act.state_apply s), Act.bind_apply_ok (Act.modifyState_apply _ s)]
  rfl

def turnedBar (k : Ref .container) (r : Ref .screen) (value : Bool) (s : Scene Deck) : Scene Deck :=
  { s with state := (s.state.setBar r value).tell k r, notices := s.notices ++ [.barVisibilityChanged] }

/-- What comes after the container has been told is up to the container. -/
theorem setBarVisibleWithin_of_turn {value : Bool} (hk : HeldBy k r s.state)
    (hv : s.state.barVisible r ≠ value) (depth : Nat) :
    setBarVisibleWithin (depth + 1) r value s =
      respond (setBarVisibleWithin depth r) r (s.state.containers.get k).mode (turnedBar k r value s) := by
  have hset := setManagerVisible_apply (s.state.screens.get r).manager value s
  rw [barVisible] at hv
  rw [if_neg hv] at hset
  rw [setBarVisibleWithin, Act.bind_apply_ok hk.parent_apply, Act.bind_apply_ok (managerOf_apply r s),
    Act.bind_apply_ok hset, if_pos rfl]
  dsimp only
  rw [notifyContainer_apply]
  rfl

theorem setBarVisibleWithin_apply_of_current {p : Option Parent} {value : Bool}
    (hp : parent r s = (.ok p, s)) (hv : s.state.barVisible r = value) (depth : Nat) :
    setBarVisibleWithin (depth + 1) r value s = (.ok (), s) := by
  have hset := setManagerVisible_apply (s.state.screens.get r).manager value s
  rw [barVisible] at hv
  rw [if_pos hv] at hset
  rw [setBarVisibleWithin, Act.bind_apply_ok hp, Act.bind_apply_ok (managerOf_apply r s),
    Act.bind_apply_ok hset]
  rfl

theorem setBarVisible_apply_of_current {p : Option Parent} {value : Bool}
    (hp : parent r s = (.ok p, s)) (hv : s.state.barVisible r = value) :
    setBarVisible r value s = (.ok (), s) := setBarVisibleWithin_apply_of_current hp hv 2

end Turning

/-! Relations that hold over what the container calls back. -/

section Bars

variable (hflag : ∀ value (s : Scene Deck), T s (setManagerVisible (s.state.screens.get r).manager value s).2)
  (htoggle : ∀ t, Keeps T (Act.modifyState fun d : Deck => { d with toggles := d.toggles ++ [t] }))

include htoggle in
theorem keeps_notifyContainer {setVisible : Bool → Do Unit} {k : Ref .container}
    (hk : (s.state.screens.get r).parent = some (.container k)) (h : CallbackKeeps T r s.state)
    (hs : ∀ t : Scene Deck, CallbackKeeps T r t.state → ∀ value, T t (setVisible value t).2) :
    T s (notifyContainer setVisible k r s).2 := by
  let t : Scene Deck := { s with state := s.state.tell k r }
  have htold : T s t := htoggle _ s
  have ht : CallbackKeeps T r t.state := h
  obtain ⟨hshow, hremove⟩ := h k hk
  rw [notifyContainer_apply]
  cases hm : (s.state.containers.get k).mode with
  | plain => exact htold
  | refuse => exact htold
  | setsVisible value => exact Act.Steady.trans htold (hs t ht value)
  | shows => exact Act.Steady.trans htold (hshow hm t)
  | resets => exact Act.Steady.trans htold (hremove hm t)

include hflag htoggle

/-- A change of the bar sets the flag, tells the container and lets that call back. The induction is on the
depth of such calls. -/
theorem keeps_setBarVisibleWithin (depth : Nat) (value : Bool) (h : CallbackKeeps T r s.state) :
    T s (setBarVisibleWithin depth r value s).2 := by
  -- The container may set the flag again, one level further in.
  induction depth generalizing s value with
  | zero => exact Act.Steady.refl s
  | succ depth ih =>
    rw [setBarVisibleWithin]
    obtain ⟨e, hparent⟩ | hparent := parent_cases r s
    · rw [Act.bind_apply, hparent]
      exact Act.Steady.refl s
    rw [Act.bind_apply_ok hparent]
    have hset := hflag value s
    obtain ⟨hscreens, hcontainers⟩ := setManagerVisible_state (s.state.screens.get r).manager value s
    change T s ((setManagerVisible (s.state.screens.get r).manager value >>= _) s).2
    rw [Act.bind_apply]
    rcases hv : setManagerVisible (s.state.screens.get r).manager value s with ⟨e | changed, t⟩
    · rwa [hv] at hset
    rw [hv] at hset hscreens hcontainers
    cases changed with
    | false => exact hset
    | true =>
      dsimp only
      rcases hk : (s.state.screens.get r).parent with _ | (k | k | k)
      · exact hset
      · have hscreens : t.state.screens = s.state.screens := hscreens
        have hkt : (t.state.screens.get r).parent = some (.container k) := by rw [hscreens, hk]
        have hnotify := keeps_notifyContainer htoggle hkt (h.congr hscreens hcontainers)
          fun u hu value => ih value hu
        exact Act.Steady.trans hset hnotify
      · exact hset
      · exact hset

theorem keeps_enableBar (hreserve : ∀ g, Keeps T (Act.runSync (reserve g)))
    (h : CallbackKeeps T r s.state) : T s (enableBar r s).2 := by
  rw [enableBar_apply]
  rcases (parent r s).1 with e | p
  · exact Act.Steady.refl s
  dsimp only
  have hrow := hreserve (s.state.screens.get r).grid s
  obtain ⟨hscreens, hcontainers⟩ := runSync_reserve_state (s.state.screens.get r).grid s
  rw [Act.bind_apply]
  rcases hv : Act.runSync (reserve (s.state.screens.get r).grid) s with ⟨e | reserved, u⟩
  · rwa [hv] at hrow
  rw [hv] at hrow hscreens hcontainers
  have hu : CallbackKeeps T r u.state := h.congr hscreens hcontainers
  cases reserved with
  | false => exact Act.Steady.trans hrow (keeps_setBarVisibleWithin hflag htoggle 3 true hu)
  | true =>
    let v : Scene Deck := { u with notices := u.notices ++ [.rowReserved] }
    have hnoted : T u v := Act.Steady.notices u _
    have hbar := keeps_setBarVisibleWithin (s := v) hflag htoggle 3 true hu
    exact Act.Steady.trans hrow (Act.Steady.trans hnoted hbar)

end Bars
end ScreenDeck.Deck
