import ScreenDeck.Proofs.Callbacks
import ScreenDeck.Proofs.Furnishings
import ScreenDeck.Proofs.Lines
import ScreenDeck.Proofs.ModesAgree
import ScreenDeck.Proofs.PageBars
import ScreenDeck.Proofs.Registries

/-! The indices of command bar items. What a session does with the items of a screen is a log of
registrations and removals, and the indices of the screen are the positions in that log since the last
removal, however the removal ended. -/

namespace ScreenDeck

namespace Deck

open Act (Composed Keeps OnState)

variable {P : Ref .manager → Prop} {d e f : Deck} {s t : Scene Deck} {m : Ref .manager}
  {r : Ref .screen} {calls : List ItemCall}

def SameItems (P : Ref .manager → Prop) (d e : Deck) : Prop := ∀ m, P m → e.registryOf m = d.registryOf m

namespace SameItems

theorem trans (h : SameItems P d e) (h' : SameItems P e f) : SameItems P d f :=
  fun m hm => (h' m hm).trans (h m hm)

theorem mono {Q : Ref .manager → Prop} (h : SameItems P d e) (hq : ∀ m, Q m → P m) :
    SameItems Q d e := fun m hm => h m (hq m hm)

end SameItems

theorem Calm.sameItems (h : Calm d e) : SameItems P d e := fun m _ => h.registries m

theorem registry_get_add (managers : Store .manager BarManager) (b : Ref .bar) (m : Ref .manager) :
    ((managers.add { bar := b }).2.get m).registry = (managers.get m).registry := by
  rw [Store.get, Store.get]
  by_cases hm : m = (managers.add { bar := b }).1
  · rw [hm, Store.get?_add, Store.get?_fst_add]
    rfl
  · rw [Store.get?_add_ne _ _ hm]

instance (P : Ref .manager → Prop) : Act.Steady (OnState (SameItems P)) :=
  Act.steady_onState (fun _ _ _ => rfl) SameItems.trans

theorem sameItems_takeScreen (name : String) (handle : Handle) (d : Deck) :
    SameItems P d (d.takeScreen name handle) := by
  have hnew : SameItems P d (d.nameNewScreen name handle) :=
    fun m _ => registry_get_add d.managers _ m
  rw [takeScreen_eq]
  cases d.names.screens.lookup name with
  | none => exact hnew
  | some o => exact hnew.trans (calm_letGo _ _).sameItems

theorem sameItems_dropScreen (name : String) (d : Deck) : SameItems P d (d.dropScreen name).2 := by
  unfold dropScreen
  cases d.names.screens.lookup name with
  | none => exact fun _ _ => rfl
  | some o =>
    let unnamed : Deck := { d with names.screens := Names.unbind d.names.screens name }
    exact (calm_letGo [.screen o] unnamed).sameItems

theorem sameItems_takeTree (name : String) (owner : Handle) (grid : Ref .grid) (d : Deck) :
    SameItems P d (d.takeTree name owner grid) := by
  have hnew : SameItems P d (d.nameNewTree name owner grid) := fun _ _ => rfl
  rw [takeTree_eq]
  cases d.names.trees.lookup name with
  | none => exact hnew
  | some o => exact hnew.trans ((Calm.modifyTree _ o _).trans (calm_letGo _ _)).sameItems

instance (P : Ref .manager → Prop) : Walking (SameItems P) where
  still _ hs := hs.toCalm.sameItems
  letGo cs d := (calm_letGo cs d).sameItems
  retire _ := (calm_retire _ _).sameItems
  takeScreen := sameItems_takeScreen
  dropScreen := sameItems_dropScreen
  takeTree := sameItems_takeTree
  takeManager _ d := fun m _ => registry_get_add d.managers _ m
  takeTracker name handle d := (Calm.of_eq (furniture_takeTracker name handle d)).sameItems
  dropTracker name d := (Calm.of_eq (furniture_dropTracker name d)).sameItems
  attach _ name := (Calm.of_eq (furniture_attach name _ _)).sameItems
  releaseNamed _ := (Calm.of_eq (furniture_releaseNamed _ _ _)).sameItems
  dropSubscription name d := (Calm.of_eq (furniture_dropSubscription name d)).sameItems

instance (P : Ref .manager → Prop) : Reshaping (SameItems P) where
  grid _ _ _ := fun _ _ => rfl
  tree _ _ _ := fun _ _ => rfl

instance (P : Ref .manager → Prop) : Turning (SameItems P) where
  turn m value d := (calm_setVisible m value d).sameItems

theorem admits_sameItems (v : Event) : Admits (SameItems P) v := fun hm => by
  cases hm <;> exact fun _ _ => rfl

theorem sameItems_modifyManager (m : Ref .manager) (f : BarManager → BarManager) (d : Deck) :
    SameItems (· ≠ m) d (d.modifyManager m f) := fun q hq => by
  rw [registryOf, registryOf, modifyManager, Store.get, Store.get, Store.get?_modify_ne _ _ hq.symm]

instance (m : Ref .manager) : Itemizing (SameItems (· ≠ m)) m where
  register _ _ d := sameItems_modifyManager m _ d
  reset d := sameItems_modifyManager m _ d.makeBar.2

/-! Calls on the registry of one manager. -/

/-- These calls were made on the registry of the manager, and no other registry has changed. -/
structure Books (m : Ref .manager) (calls : List ItemCall) (d e : Deck) : Prop where
  booked : e.registryOf m = calls.foldl ItemCall.apply (d.registryOf m)
  others : SameItems (· ≠ m) d e

theorem SameItems.books (h : SameItems (fun _ => True) d e) (m : Ref .manager) : Books m [] d e :=
  ⟨h m trivial, h.mono fun _ _ => trivial⟩

namespace Books

theorem before (h : SameItems (fun _ => True) d e) (h' : Books m calls e f) : Books m calls d f :=
  ⟨by rw [h'.booked, h m trivial], (h.mono fun _ _ => trivial).trans h'.others⟩

theorem after (h : Books m calls d e) (h' : SameItems (fun _ => True) e f) : Books m calls d f :=
  ⟨by rw [h' m trivial, h.booked], h.others.trans (h'.mono fun _ _ => trivial)⟩

theorem modifyManager {f : BarManager → BarManager} {c : ItemCall} (hm : (d.managers.get? m).isSome)
    (hf : (f (d.managers.get m)).registry = c.apply (d.registryOf m)) :
    Books m [c] d (d.modifyManager m f) := by
  refine ⟨?_, sameItems_modifyManager m f d⟩
  obtain ⟨x, hx⟩ := Option.isSome_iff_exists.mp hm
  rw [Store.get_of_get? hx] at hf
  rw [registryOf, Deck.modifyManager, Store.get, Store.get?_modify_self, hx]
  exact hf

end Books

theorem registerItem_apply (m : Ref .manager) (item : Handle) (s : Scene Deck) :
    registerItem m item s = (((s.state.registryOf m).register item).1.mapError .failed, { s with
      state := s.state.modifyManager m fun x =>
        { x with registry := ((s.state.registryOf m).register item).2 } }) := by
  rw [registerItem, Act.bind_apply_ok (Act.state_apply s), registryOf]
  rcases (s.state.managers.get m).registry.register item with ⟨_ | _, registry⟩ <;> rfl

theorem books_registerItem (hm : (s.state.managers.get? m).isSome) (item : Handle) :
    Books m [.register item] s.state (registerItem m item s).2.state := by
  rw [registerItem_apply]
  exact .modifyManager hm rfl

theorem books_resetManager (hm : (s.state.managers.get? m).isSome) :
    Books m [.reset] s.state (resetManager m s).2.state := by
  have hbar : SameItems (fun _ => True) s.state s.state.makeBar.2 := fun _ _ => rfl
  exact .before hbar (.modifyManager hm rfl)

/-- The registry starts over first, and what fails after that leaves it so. -/
theorem books_removeOptionsMenu (hm : (s.state.managers.get? (s.state.screens.get r).manager).isSome) :
    Books (s.state.screens.get r).manager [.reset] s.state (removeOptionsMenu r s).2.state := by
  have hrest (g : Ref .grid) (bar : Ref .bar) : Composed (SameItems fun _ => True) (do
      Act.runSync do
        Act.modifyState fun d : Deck => d.modifyGrid g fun g => g.releaseReservedRow.2
        setPageBar bar
      Act.note .optionsMenuRemoved) :=
    .bind (.runSync ((Composed.modifyState (Reshaping.grid .release g)).bind fun _ =>
      composed_setPageBar (admits_sameItems _))) fun _ => .note _
  rw [removeOptionsMenu, Act.bind_apply_ok (managerOf_apply r s),
    Act.bind_apply_ok (resetManager_apply _ s), Act.bind_apply_ok (Act.state_apply _)]
  exact (books_resetManager hm).after ((hrest _ _).keeps _)

/-! Containers. -/

/-- When the bar of the screen shows or hides, its container takes the menu away. -/
def resetsWhenTold (d : Deck) (r : Ref .screen) : Bool :=
  match (d.screens.get r).parent with
  | some (.container k) => (d.containers.get k).alive && decide ((d.containers.get k).mode = .resets)
  | _ => false

theorem callbackKeeps_sameItems
    (h : ∀ k, (d.screens.get r).parent = some (.container k) → (d.containers.get k).mode ≠ .resets) :
    CallbackKeeps (OnState (SameItems P)) r d := fun k hk =>
  ⟨fun _ => (composed_showScreen (R := SameItems P) (fun v _ => admits_sameItems v) r).keeps,
    fun hmode => absurd hmode (h k hk)⟩

theorem sameItems_setBarVisible (value : Bool) (h : ∀ k,
    (s.state.screens.get r).parent = some (.container k) → (s.state.containers.get k).mode ≠ .resets) :
    SameItems P s.state (setBarVisible r value s).2.state :=
  keeps_setBarVisibleWithin (T := OnState (SameItems P))
    (fun value s => (composed_setManagerVisible _ value).keeps s)
    (fun t => Act.Composed.keeps (R := SameItems P) (composed_still (fun _ => .toggle t) fun _ => .of_eq rfl rfl rfl))
    3 value (callbackKeeps_sameItems h)

/-- A container that takes the menu away does so once: the bar is told of no further change. -/
theorem books_setBarVisible_of_resets {k : Ref .container} (value : Bool)
    (hm : (s.state.managers.get? (s.state.screens.get r).manager).isSome) (hk : HeldBy k r s.state)
    (hmode : (s.state.containers.get k).mode = .resets) (hv : s.state.barVisible r ≠ value) :
    Books (s.state.screens.get r).manager [.reset] s.state (setBarVisible r value s).2.state := by
  have hsame : SameItems (fun _ => True) s.state (turnedBar k r value s).state :=
    (calm_setVisible _ value s.state).sameItems
  have hthere : ((turnedBar k r value s).state.managers.get? (s.state.screens.get r).manager).isSome :=
    (Store.isSome_get?_modify _ _ _ _).trans hm
  rw [setBarVisible, setBarVisibleWithin_of_turn hk hv, hmode]
  exact .before hsame (books_removeOptionsMenu hthere)

/-- The container is not told when it is gone, or when the flag is what it should be. -/
theorem setBarVisible_idle {k : Ref .container} {value : Bool}
    (hk : (s.state.screens.get r).parent = some (.container k))
    (h : (s.state.containers.get k).alive = false ∨ s.state.barVisible r = value) :
    (setBarVisible r value s).2.state = s.state := by
  have hparent := parent_apply_of_container hk
  cases halive : (s.state.containers.get k).alive with
  | false =>
    rw [halive, if_neg Bool.false_ne_true] at hparent
    rw [setBarVisible, setBarVisibleWithin, Act.bind_apply, hparent]
  | true =>
    have hv : s.state.barVisible r = value := h.resolve_left (by simp [halive])
    rw [halive, if_pos rfl] at hparent
    rw [setBarVisible_apply_of_current hparent hv]

/-- The container takes the menu away when it is told of the change, or nothing happens at all, or the
container never takes the menu away. -/
theorem setBarVisible_cases (r : Ref .screen) (value : Bool) (s : Scene Deck) :
    (∃ k, HeldBy k r s.state ∧ (s.state.containers.get k).mode = .resets ∧
      s.state.resetsWhenTold r ∧ s.state.barVisible r ≠ value) ∨
    ¬ (s.state.resetsWhenTold r ∧ s.state.barVisible r ≠ value) ∧
      ((setBarVisible r value s).2.state = s.state ∨ ∀ k,
        (s.state.screens.get r).parent = some (.container k) → (s.state.containers.get k).mode ≠ .resets) := by
  by_cases hk : ∃ k, (s.state.screens.get r).parent = some (.container k) ∧
      (s.state.containers.get k).mode = .resets
  · obtain ⟨k, hk, hmode⟩ := hk
    have htold : s.state.resetsWhenTold r = (s.state.containers.get k).alive := by
      simp only [resetsWhenTold, hk, hmode, decide_true, Bool.and_true]
    rw [htold]
    by_cases hchange : (s.state.containers.get k).alive = true ∧ s.state.barVisible r ≠ value
    · exact .inl ⟨k, ⟨hk, hchange.1⟩, hmode, hchange⟩
    · have hidle : (s.state.containers.get k).alive = false ∨ s.state.barVisible r = value := by
        rw [not_and_or, Bool.not_eq_true, not_not] at hchange
        exact hchange
      exact .inr ⟨hchange, .inl (setBarVisible_idle hk hidle)⟩
  · have hother : ∀ k, (s.state.screens.get r).parent = some (.container k) →
        (s.state.containers.get k).mode ≠ .resets := fun k hp hmode => hk ⟨k, hp, hmode⟩
    have htold : s.state.resetsWhenTold r = false := by
      rw [resetsWhenTold]
      split
      next k hp => simp [hother k hp]
      next => rfl
    exact .inr ⟨fun h => Bool.false_ne_true (htold.symm.trans h.1), .inr hother⟩

theorem books_setBarVisible (value : Bool)
    (hm : (s.state.managers.get? (s.state.screens.get r).manager).isSome) :
    Books (s.state.screens.get r).manager
      (if s.state.resetsWhenTold r ∧ s.state.barVisible r ≠ value then [.reset] else [])
      s.state (setBarVisible r value s).2.state := by
  obtain ⟨k, hk, hmode, hchange⟩ | ⟨hno, hidle | hother⟩ := setBarVisible_cases r value s
  · rw [if_pos hchange]
    exact books_setBarVisible_of_resets value hm hk hmode hchange.2
  · rw [if_neg hno, hidle]
    exact SameItems.books (fun _ _ => rfl) _
  · rw [if_neg hno]
    exact (sameItems_setBarVisible value hother).books _

theorem resetsWhenTold_of_parent_error {e : Abort} (hp : (parent r s).1 = .error e) :
    s.state.resetsWhenTold r = false := by
  rw [resetsWhenTold]
  split
  next k hk =>
    rw [parent_apply_of_container hk] at hp
    cases halive : (s.state.containers.get k).alive with
    | false => rfl
    | true =>
      rw [halive] at hp
      cases hp
  next => rfl

/-- The bar is shown only if the row could be reserved, and that needs a context that serves. -/
theorem books_enableBar (hm : (s.state.managers.get? (s.state.screens.get r).manager).isSome) :
    Books (s.state.screens.get r).manager
      (if s.context.Serves ∧ s.state.resetsWhenTold r ∧ s.state.barVisible r ≠ true then [.reset] else [])
      s.state (enableBar r s).2.state := by
  rw [enableBar_apply]
  rcases hp : (parent r s).1 with e | p
  · rw [resetsWhenTold_of_parent_error hp, if_neg fun h => Bool.false_ne_true h.2.1]
    exact SameItems.books (fun _ _ => rfl) _
  dsimp only
  by_cases hs : s.context.Serves
  · obtain ⟨reserved, c, x, hrow⟩ := runSync_reserve_apply_of_serves hs (s.state.screens.get r).grid
    rw [Act.bind_apply_ok hrow]
    let grown : Deck := s.state.modifyGrid (s.state.screens.get r).grid fun _ => x
    have hgrown : SameItems (fun _ => True) s.state grown := fun _ _ => rfl
    have hbar (u : Scene Deck) (hu : u.state = grown) :
        Books (s.state.screens.get r).manager
          (if s.state.resetsWhenTold r ∧ s.state.barVisible r ≠ true then [.reset] else [])
          s.state (setBarVisible r true u).2.state := by
      obtain ⟨c, n, d⟩ := u
      obtain rfl : d = grown := hu
      exact .before hgrown (books_setBarVisible (s := ⟨c, n, grown⟩) true hm)
    simp only [hs, true_and]
    cases reserved with
    | false => exact hbar _ rfl
    | true =>
      rw [if_pos rfl, Act.bind_apply_ok (Act.note_apply _ _)]
      exact hbar _ rfl
  · rw [if_neg fun h => hs h.1, Act.bind_apply, Act.runSync_apply_of_not_serves _ hs]
    exact SameItems.books (fun _ _ => rfl) _

/-! Arbitrary calls, such as a container may make that is told of a bar. -/

/-- What becomes of a deck, with a log of what is done with this registry, in whatever scenes. -/
inductive Booked (m : Ref .manager) (d : Deck) : List ItemCall → Deck → Prop
  | start : Booked m d [] d
  | register {log : List ItemCall} {s : Scene Deck} (h : Booked m d log s.state) (item : Handle) :
      Booked m d (log ++ [.register item]) (registerItem m item s).2.state
  | reset {log : List ItemCall} {s : Scene Deck} (h : Booked m d log s.state) :
      Booked m d (log ++ [.reset]) (resetManager m s).2.state
  | aside {log : List ItemCall} {e f : Deck} (h : Booked m d log e)
      (hm : (e.managers.get? m).isSome → (f.managers.get? m).isSome)
      (hf : f.registryOf m = e.registryOf m) : Booked m d log f

theorem isSome_get?_modifyManager {q : Ref .manager} (hm : (d.managers.get? m).isSome)
    (f : BarManager → BarManager) : ((d.modifyManager q f).managers.get? m).isSome :=
  (Store.isSome_get?_modify _ _ _ _).trans hm

theorem Booked.registryOf (h : Booked m d calls e) (hm : (d.managers.get? m).isSome) :
    (e.managers.get? m).isSome ∧ e.registryOf m = calls.foldl ItemCall.apply (d.registryOf m) := by
  induction h with
  | start => exact ⟨hm, rfl⟩
  | @register calls s _ item ih =>
    obtain ⟨hthere, hbooked⟩ := ih
    refine ⟨?_, ?_⟩
    · rw [registerItem_apply]
      exact isSome_get?_modifyManager hthere _
    · rw [(books_registerItem hthere item).booked, hbooked, List.foldl_append]
  | @reset calls s _ ih =>
    obtain ⟨hthere, hbooked⟩ := ih
    refine ⟨?_, ?_⟩
    · rw [resetManager_apply]
      exact isSome_get?_modifyManager (d := s.state.makeBar.2) hthere _
    · rw [(books_resetManager hthere).booked, hbooked, List.foldl_append]
  | aside _ hm hf ih =>
    obtain ⟨hthere, hbooked⟩ := ih
    exact ⟨hm hthere, hf.trans hbooked⟩

end Deck

namespace Session

open Deck

variable {d : Deck} {s t : Scene Deck} {m : Ref .manager} {r : Ref .screen} {items : List Handle}

/-- What the step does with the items of the screen. A removal counts however it ends. The bar of a
screen is only shown once the context has reserved its row. -/
def screenCalls (r : Ref .screen) (s : Scene Deck) : ScreenStep → List ItemCall
  | .register item => [.register item]
  | .removeMenu => [.reset]
  | .setProperty name _ =>
    match Property.ofName name with
    | .ok .removeOptionsMenu => [.reset]
    | _ => []
  | .visible value =>
    if s.state.resetsWhenTold r ∧ s.state.barVisible r ≠ value then [.reset] else []
  | .enable =>
    if s.context.Serves ∧ s.state.resetsWhenTold r ∧ s.state.barVisible r ≠ true then [.reset] else []
  | _ => []

theorem sameItems_performOnScreen {step : ScreenStep} (h : ¬ step.Itemizes) :
    SameItems (fun _ => True) s.state (performOnScreen r step s).2.state :=
  (composed_performOnScreen (R := SameItems fun _ => True) r (fun v _ => admits_sameItems v)
    (fun _ => inferInstance) (fun hi => absurd hi h) fun _ => inferInstance).keeps s

theorem books_setProperty (name value : String)
    (hm : (s.state.managers.get? (s.state.screens.get r).manager).isSome) :
    Books (s.state.screens.get r).manager (screenCalls r s (.setProperty name value)) s.state
      (setProperty r name value s).2.state := by
  have hnone {e : Deck} (h : SameItems (fun _ => True) s.state e) :
      Books (s.state.screens.get r).manager [] s.state e := h.books _
  rw [screenCalls, setProperty]
  cases hp : Property.ofName name with
  | error f => exact hnone fun _ _ => rfl
  | ok p =>
    cases p with
    | title => exact hnone fun _ _ => rfl
    | removeOptionsMenu => exact books_removeOptionsMenu hm
    | isShown => exact hnone fun _ _ => rfl

/-- A step on a screen has the registry of the screen make the listed calls, and no other registry changes.
-/
theorem books_performOnScreen (step : ScreenStep)
    (hm : (s.state.managers.get? (s.state.screens.get r).manager).isSome) :
    Books (s.state.screens.get r).manager (screenCalls r s step) s.state
      (performOnScreen r step s).2.state := by
  cases step with
  | register item =>
    rw [performOnScreen, outcome_snd, Act.bind_apply_ok (managerOf_apply r s)]
    have hregister := books_registerItem hm item
    rw [Act.bind_apply]
    rcases hr : registerItem (s.state.screens.get r).manager item s with ⟨_ | _, t⟩ <;>
      rw [hr] at hregister <;> exact hregister
  | removeMenu =>
    rw [performOnScreen, outcome_snd, done_snd]
    exact books_removeOptionsMenu hm
  | setProperty name value =>
    rw [performOnScreen, outcome_snd, done_snd]
    exact books_setProperty name value hm
  | visible value =>
    rw [performOnScreen, outcome_snd, done_snd]
    exact books_setBarVisible value hm
  | enable =>
    rw [performOnScreen, outcome_snd, done_snd]
    exact books_enableBar hm
  | _ => exact (sameItems_performOnScreen id).books _

def itemCalls (r : Ref .screen) (s : Scene Deck) : Step → List ItemCall
  | .onScreen name step => if s.state.names.screens.lookup name = some r then screenCalls r s step else []
  | _ => []

theorem sameItems_perform {step : Step} (h : ¬ step.Itemizes) :
    SameItems (fun _ => True) s.state (perform step s).2.state :=
  keeps_perform_of (R := SameItems fun _ => True) (fun v _ => admits_sameItems v)
    (fun _ => inferInstance) (fun hi => absurd hi h) (fun _ => inferInstance) s

structure SoleManager (d : Deck) (m : Ref .manager) (r : Ref .screen) : Prop where
  screens : ∀ {q y}, d.screens.get? q = some y → (y.manager = m ↔ q = r)
  named : ∀ {z}, z ∈ d.names.managers → z.2 ≠ m

theorem registry_perform (hd : s.state.Furnished) (hm : SoleManager s.state m r) (step : Step) :
    (perform step s).2.state.registryOf m =
      (itemCalls r s step).foldl ItemCall.apply (s.state.registryOf m) := by
  cases step with
  | onScreen name step =>
    rw [perform, itemCalls]
    cases hq : s.state.names.screens.lookup name with
    | none =>
      rw [named_apply_none hq]
      rfl
    | some q =>
      obtain ⟨y, hy⟩ := Option.isSome_iff_exists.mp (hd.named (Names.mem_of_lookup hq))
      have hthere : (s.state.managers.get? (s.state.screens.get q).manager).isSome := by
        rw [Store.get_of_get? hy]
        exact hd.managers.there hy
      have hbooks := books_performOnScreen step hthere
      rw [Store.get_of_get? hy] at hbooks
      rw [named_apply_some hq]
      by_cases hqr : q = r
      · obtain rfl := (hm.screens hy).mpr hqr
        subst hqr
        rw [if_pos rfl]
        exact hbooks.booked
      · rw [if_neg (by simpa using hqr)]
        exact hbooks.others m fun he => hqr ((hm.screens hy).mp he.symm)
  | onManager name step =>
    rw [perform]
    cases hq : s.state.names.managers.lookup name with
    | none =>
      rw [named_apply_none hq]
      rfl
    | some q =>
      rw [named_apply_some hq]
      have hother : m ≠ q := fun he => hm.named (Names.mem_of_lookup hq) he.symm
      exact (composed_performOnManager (R := SameItems (· ≠ q)) q fun _ => inferInstance).keeps s m hother
  | _ => exact sameItems_perform id m trivial

def Via.context (c : Context) : Via → Context
  | .direct => c
  | .thread => { c with thread := .helper }
  | .ui => c.inside

/-- Only on the UI side can a step be refused. -/
theorem issue_state (via : Via) (step : Step) (s : Scene Deck) :
    (issue via step s).2.state = if via = .ui → s.context.Serves then
      (perform step { s with context := via.context s.context }).2.state else s.state := by
  cases via with
  | direct =>
    rw [issue_direct_apply, guarded_apply, if_pos nofun]
    rfl
  | thread =>
    rw [issue_thread_apply, Act.onThread_apply, guarded_apply, if_pos nofun]
    rfl
  | ui =>
    rw [issue_ui_apply]
    by_cases hs : s.context.Serves
    · rw [Act.runSync_state hs, if_pos fun _ => hs, guarded_apply]
      rfl
    · rw [Act.runSync_apply_of_not_serves _ hs, if_neg fun h => hs (h rfl)]

def issuedCalls (r : Ref .screen) (s : Scene Deck) (via : Via) (step : Step) : List ItemCall :=
  if via = .ui → s.context.Serves then itemCalls r { s with context := via.context s.context } step
  else []

theorem registry_observe (hd : s.state.Furnished) (hm : SoleManager s.state m r) (via : Via)
    (step : Step) : (observe via step s).2.state.registryOf m =
      (issuedCalls r s via step).foldl ItemCall.apply (s.state.registryOf m) := by
  have hissue : (issue via step s).2.state.registryOf m =
      (issuedCalls r s via step).foldl ItemCall.apply (s.state.registryOf m) := by
    rw [issue_state, issuedCalls]
    split
    · exact registry_perform (s := { s with context := via.context s.context }) hd hm step
    · rfl
  rw [observe_eq, Act.bind_apply]
  rcases hr : issue via step s with ⟨r, t⟩
  rw [hr] at hissue
  rcases r with e | e | reply
  · exact hissue
  · exact hissue
  · exact ((composed_look (R := SameItems fun _ => True) step reply).keeps t m trivial).trans hissue

def itemLog (r : Ref .screen) : List (Via × Step) → Scene Deck → List ItemCall
  | [], _ => []
  | (via, step) :: steps, s => issuedCalls r s via step ++
    match observe via step s with
    | (.ok _, t) => itemLog r steps t
    | (.error _, _) => []

/-- Screens never share a manager, so the one that is there at the end was alone with its own from the
start. -/
theorem soleManager (hd : s.state.Furnished) (h : Upholds s.state t.state) (ht : t.state.Furnished)
    {x : Screen} (hx : t.state.screens.get? r = some x) : SoleManager s.state x.manager r where
  screens {q y} hy := by
    obtain ⟨z, hz, hzy⟩ := h.parts hy
    have hmanager : z.manager = y.manager := congrArg Prod.snd hzy
    constructor
    · exact fun he => ht.managers.apart hz hx (hmanager.trans he)
    · rintro rfl
      obtain rfl := Option.some.inj (hz.symm.trans hx)
      exact hmanager.symm
  named {z} hz := by
    rintro hzx
    have hthere := hd.managers.held hz
    cases hr : s.state.screens.get? r with
    | none =>
      rw [hzx, h.fresh hr hx] at hthere
      cases hthere
    | some y =>
      obtain ⟨x', hx', hxy⟩ := h.parts hr
      obtain rfl := Option.some.inj (hx'.symm.trans hx)
      have hmanager : x'.manager = y.manager := congrArg Prod.snd hxy
      exact hd.managers.unnamed hz hr (hmanager.symm.trans hzx.symm)

/-- The registry is what the calls in the log have made of it, by induction on the steps. -/
theorem registry_observeAll (steps : List (Via × Step)) (hd : s.state.Furnished) {x : Screen}
    (hx : (observeAll steps s).2.state.screens.get? r = some x) :
    (observeAll steps s).2.state.registryOf x.manager =
      (itemLog r steps s).foldl ItemCall.apply (s.state.registryOf x.manager) := by
  induction steps generalizing s with
  | nil => rfl
  | cons y steps ih =>
    obtain ⟨via, step⟩ := y
    -- The screen may be made by a later step. Its manager is nobody's until then.
    have hall := upholds_observeAll ((via, step) :: steps) s
    have hone := upholds_observe via step s
    have hsole := soleManager hd hall (hall.furnished hd) hx
    have hstep := registry_observe hd hsole via step
    rw [observeAll] at hx ⊢
    rw [itemLog, List.foldl_append, ← hstep]
    rcases hr : observe via step s with ⟨o | o, t⟩
    · rw [hr] at hx
      rfl
    · rw [hr] at hx hone
      exact ih (hone.furnished hd) hx

/-! The indices that a screen gives out and finds. -/

/-- The screen gives the next item the number of those before it, as long as there are indices, and
finds an item under the number of those before its first registration. -/
structure Numbers (r : Ref .screen) (items : List Handle) (s : Scene Deck) : Prop where
  register : ∀ item, (performOnScreen r (.register item) s).1 = .ok
    (if items.length < Registry.capacity then .success (.number items.length)
    else .failure (.invalidState .indexSpaceExhausted))
  index : ∀ item, (performOnScreen r (.indexOf item) s).1 = .ok
    (Reply.option (fun i => .number i) ((items.take Registry.capacity).idxOf? item))

theorem toInt_ofNat_of_lt_capacity {i : Nat} (h : i < Registry.capacity) :
    (Int32.ofNat i).toInt = i :=
  Int32.toInt_ofNat_of_lt (Nat.lt_trans h (by decide))

theorem numbers_of_registry (h : (s.state.registryOf (s.state.screens.get r).manager).Numbers items) :
    Numbers r items s where
  register item := by
    rw [performOnScreen, outcome, Act.bind_apply, Act.attempt_apply,
      Act.bind_apply_ok (managerOf_apply r s), Act.bind_apply, registerItem_apply, h.register_fst item]
    by_cases hroom : items.length < Registry.capacity
    · rw [if_pos hroom, if_pos hroom, ← toInt_ofNat_of_lt_capacity hroom]
      rfl
    · rw [if_neg hroom, if_neg hroom]
      rfl
  index item := by
    have hindex := Registry.Lists.indexOf?_eq h item
    rw [performOnScreen, Act.bind_apply_ok (Act.state_apply s),
      Act.bind_apply_ok (managerOf_apply r s)]
    change Except.ok (Reply.option _ ((s.state.registryOf _).indexOf? item)) = _
    rw [hindex]
    cases hi : (items.take Registry.capacity).idxOf? item with
    | none => rfl
    | some i =>
      obtain ⟨hlt, -⟩ := List.idxOf?_eq_some_iff.mp hi
      rw [List.length_take] at hlt
      change Except.ok (Reply.number (Int32.ofNat i).toInt) = .ok (.number i)
      rw [toInt_ofNat_of_lt_capacity (by omega)]

/-- However a session went, the indices of a screen start at zero when it is made and whenever its menu
is removed, whatever comes of the removal, and count the registrations since then. What is done with
its registry after that counts in the same way, whoever does it, and in whatever scenes: it may be a
container that calls back while it is told of the bar. -/
theorem item_indices {setup : Setup} {start : Scene Deck} (h : setup.start = .ok start)
    (steps : List (Via × Step)) {x : Screen}
    (hx : (observeAll steps start).2.state.screens.get? r = some x) :
    let s := (observeAll steps start).2
    let log := itemLog r steps start
    Numbers r (ItemCall.itemsSince log) s ∧ Numbers r [] (removeOptionsMenu r s).2 ∧
      ∀ {more t}, Booked x.manager s.state more t.state →
        (t.state.screens.get r).manager = x.manager →
        Numbers r (ItemCall.itemsSince (log ++ more)) t := by
  intro s log
  have hfurnished := furnished_start h
  have hthere : (s.state.managers.get? x.manager).isSome :=
    ((upholds_observeAll steps start).furnished hfurnished).managers.there hx
  have hmanager : (s.state.screens.get r).manager = x.manager := by rw [Store.get_of_get? hx]
  -- Before the screen is made, its registry is empty, as there is none.
  have hempty : start.state.registryOf x.manager = {} := by
    have hnone : start.state.screens.get? r = none := by
      rw [(start_state h).2]
      rfl
    rw [registryOf, Store.get, (upholds_observeAll steps start).fresh hnone hx]
    rfl
  have hlog : s.state.registryOf x.manager = log.foldl ItemCall.apply {} := by
    rw [← hempty]
    exact registry_observeAll steps hfurnished hx
  have hmore {more t} (hb : Booked x.manager s.state more t.state)
      (ht : (t.state.screens.get r).manager = x.manager) :
      Numbers r (ItemCall.itemsSince (log ++ more)) t := by
    apply numbers_of_registry
    rw [ht, (hb.registryOf hthere).2, hlog, ← List.foldl_append]
    exact ItemCall.numbers_itemsSince _
  refine ⟨?_, numbers_of_registry ?_, hmore⟩
  · have hnow := hmore .start hmanager
    rwa [List.append_nil] at hnow
  · have hremove : Upholds s.state (removeOptionsMenu r s).2.state :=
      (composed_removeOptionsMenu r fun _ => admits_upholds _).keeps s
    obtain ⟨y, hy, hyx⟩ := hremove.parts hx
    have hkept : y.manager = x.manager := congrArg Prod.snd hyx
    rw [Store.get_of_get? hy, hkept, ← hmanager]
    rw [← hmanager] at hthere
    rw [(books_removeOptionsMenu hthere).booked]
    exact Registry.numbers_empty

/-- A screen gets three items. After the shutdown its container removes the menu when it is told of the
bar, and the removal fails half-way. -/
def itemSteps : List (Via × Step) :=
  [(.direct, .container "c" ⟨1⟩ .resets), (.direct, .openScreen "a" ⟨2⟩),
    (.direct, .onScreen "a" (.parent "c")), (.ui, .onScreen "a" (.register ⟨7⟩)),
    (.thread, .onScreen "a" (.register ⟨8⟩)), (.direct, .onScreen "a" (.register ⟨7⟩)),
    (.direct, .shutdown), (.direct, .onScreen "a" (.visible true)),
    (.direct, .onScreen "a" (.register ⟨8⟩)), (.direct, .onScreen "a" (.register ⟨8⟩)),
    (.thread, .onScreen "a" (.register ⟨9⟩))]

/-- The indices have started over. -/
theorem indices_after_failed_removal :
    itemLog ⟨0⟩ itemSteps newSession = [.register ⟨7⟩, .register ⟨8⟩, .register ⟨7⟩, .reset,
      .register ⟨8⟩, .register ⟨8⟩, .register ⟨9⟩] ∧
    ((observeAll itemSteps newSession).2.state.screens.get? ⟨0⟩).isSome ∧
    Numbers ⟨0⟩ [⟨8⟩, ⟨8⟩, ⟨9⟩] (observeAll itemSteps newSession).2 := by
  have hlog : itemLog ⟨0⟩ itemSteps newSession = [.register ⟨7⟩, .register ⟨8⟩, .register ⟨7⟩,
      .reset, .register ⟨8⟩, .register ⟨8⟩, .register ⟨9⟩] := by decide +kernel
  have hthere : ((observeAll itemSteps newSession).2.state.screens.get? ⟨0⟩).isSome := by
    decide +kernel
  obtain ⟨x, hx⟩ := Option.isSome_iff_exists.mp hthere
  have hnumbers := (item_indices start_newSession itemSteps hx).1
  rw [hlog] at hnumbers
  exact ⟨hlog, hthere, hnumbers⟩

end Session
end ScreenDeck
