import ScreenDeck.Proofs.Moves
import ScreenDeck.Proofs.SideBySide

/-! Decks that differ in the parent of one screen. Whatever does not look at the parent does the same to
both, and they differ in it still. -/

namespace ScreenDeck

namespace Deck

variable {r q : Ref .screen} {p : Option Parent} {d e : Deck}

def reparent (r : Ref .screen) (p : Option Parent) (d : Deck) : Deck :=
  d.modifyScreen r fun x => { x with parent := p }

/-- The screen is there, and in the second deck it has the parent `p`. -/
structure Reparented (r : Ref .screen) (p : Option Parent) (d e : Deck) : Prop where
  there : (d.screens.get? r).isSome
  eq : e = d.reparent r p

namespace Reparented

theorem get_ne (h : Reparented r p d e) (hq : q ≠ r) : e.screens.get q = d.screens.get q := by
  rw [h.eq, Store.get, Store.get, reparent, modifyScreen, Store.get?_modify_ne _ _ hq.symm]

theorem get (h : Reparented r p d e) (q : Ref .screen) :
    ∃ p', e.screens.get q = { d.screens.get q with parent := p' } := by
  by_cases hq : q = r
  · obtain ⟨x, hx⟩ := Option.isSome_iff_exists.mp h.there
    refine ⟨p, ?_⟩
    rw [h.eq, hq, Store.get_of_get? hx, Store.get, reparent, modifyScreen, Store.get?_modify_self, hx]
    rfl
  · exact ⟨(d.screens.get q).parent, h.get_ne hq⟩

/-! What is read of either deck. -/

theorem names_eq : (d.reparent r p).names = d.names := rfl

theorem handleOf (h : Reparented r p d e) (c : Child) : e.handleOf c = d.handleOf c := by
  obtain ⟨-, rfl⟩ := id h
  cases c with
  | widget w => rfl
  | screen q =>
    obtain ⟨_, hq⟩ := h.get q
    simp only [Deck.handleOf, hq]

theorem viewOf (h : Reparented r p d e) (c : Child) : e.viewOf c = d.viewOf c := by
  obtain ⟨-, rfl⟩ := id h
  cases c with
  | widget w => rfl
  | screen q =>
    obtain ⟨_, hq⟩ := h.get q
    simp only [Deck.viewOf, hq]
    rfl

theorem barVisible (h : Reparented r p d e) (q : Ref .screen) : e.barVisible q = d.barVisible q := by
  obtain ⟨_, hq⟩ := h.get q
  obtain ⟨-, rfl⟩ := h
  simp only [Deck.barVisible, hq]
  rfl

theorem visibleBar (h : Reparented r p d e) (q : Ref .screen) : e.visibleBar q = d.visibleBar q := by
  obtain ⟨_, hq⟩ := h.get q
  obtain ⟨-, rfl⟩ := h
  simp only [Deck.visibleBar, hq]
  rfl

theorem isOrphan (h : Reparented r p d e) (q : Ref .screen) (pending : List Child) :
    e.isOrphan q pending = d.isOrphan q pending := by
  obtain ⟨_, hq⟩ := h.get q
  obtain ⟨-, rfl⟩ := h
  simp only [Deck.isOrphan, hq]
  rfl

/-! What is done to both decks. -/

/-- What is done elsewhere than to screens. -/
theorem map {f : Deck → Deck} (h : Reparented r p d e) (hf : ∀ d, f (d.reparent r p) = (f d).reparent r p)
    (hs : ∀ d, (f d).screens = d.screens) : Reparented r p (f d) (f e) :=
  ⟨by rw [hs, h.there], by rw [h.eq, hf]⟩

theorem modifyScreen (h : Reparented r p d e) (q : Ref .screen) {f : Screen → Screen}
    (hf : r = q → ∀ x, f { x with parent := p } = { f x with parent := p }) :
    Reparented r p (d.modifyScreen q f) (e.modifyScreen q f) := by
  obtain ⟨hr, rfl⟩ := h
  refine ⟨(Store.isSome_get?_modify _ _ _ _).trans hr, ?_⟩
  exact congrArg (fun screens => { d with screens }) (Store.modify_comm hf)

theorem release (h : Reparented r p d e) (x : Subscription) :
    (e.release x).1 = (d.release x).1 ∧ Reparented r p (d.release x).2 (e.release x).2 := by
  obtain ⟨hr, rfl⟩ := h
  unfold Deck.release
  split <;> exact ⟨rfl, hr, rfl⟩

theorem bury (h : Reparented r p d e) (q : Ref .screen) : Reparented r p (d.bury q) (e.bury q) := by
  obtain ⟨_, hq⟩ := h.get q
  have hended := h.modifyScreen q (f := fun x => { x with alive := false }) fun _ _ => rfl
  simp only [Deck.bury, hq]
  exact (hended.map (f := fun d => d.modifyTracker _ _) (fun _ => rfl) fun _ => rfl).map
    (f := fun d => d.modifyTree _ _) (fun _ => rfl) fun _ => rfl

/-! Letting go. -/

theorem letGoWith {one : Ref .screen → List Child → Deck → Deck}
    (ho : ∀ {d e} q pending, Reparented r p d e → Reparented r p (one q pending d) (one q pending e))
    (cs pending : List Child) (h : Reparented r p d e) :
    Reparented r p (Deck.letGoWith one cs pending d) (Deck.letGoWith one cs pending e) := by
  induction cs generalizing d e with
  | nil => exact h
  | cons c cs ih =>
    cases c with
    | widget w => exact ih h
    | screen q => exact ih (ho q _ h)

theorem letGoScreen (depth : Nat) (q : Ref .screen) (pending : List Child) (h : Reparented r p d e) :
    Reparented r p (Deck.letGoScreen depth q pending d) (Deck.letGoScreen depth q pending e) := by
  induction depth generalizing q pending d e with
  | zero => exact h
  | succ depth ih =>
    obtain ⟨_, hq⟩ := h.get q
    have htrees : e.trees = d.trees := by rw [h.eq]; rfl
    simp only [Deck.letGoScreen, h.isOrphan, hq, htrees]
    split
    · exact ((letGoWith (fun q pending h => ih q pending h) _ pending (h.bury q)).release _).2
    · exact h

theorem letGo (h : Reparented r p d e) (cs : List Child) : Reparented r p (d.letGo cs) (e.letGo cs) := by
  have hsize : e.screens.size = d.screens.size := by
    rw [h.eq]
    exact List.length_modify ..
  rw [Deck.letGo, Deck.letGo, hsize]
  exact letGoWith (fun q pending h => h.letGoScreen _ q pending) cs [] h

theorem makeScreen (h : Reparented r p d e) (handle : Handle) :
    (e.makeScreen handle).1 = (d.makeScreen handle).1 ∧
      Reparented r p (d.makeScreen handle).2 (e.makeScreen handle).2 := by
  obtain ⟨hr, rfl⟩ := h
  have hadd := Store.add_modify hr fun x => { x with parent := p }
  refine ⟨congrArg Ref.mk (List.length_modify ..), Store.isSome_get?_add hr _, ?_⟩
  exact congrArg (fun x => { (d.makeScreen handle).2 with screens := x.2 }) (hadd _)

theorem nameScreen (h : Reparented r p d e) (name : String) (q : Ref .screen) :
    Reparented r p (d.nameScreen name q) (e.nameScreen name q) := by
  have hnamed := h.map (f := fun d => { d with names.screens := Names.bind d.names.screens name q })
    (fun _ => rfl) fun _ => rfl
  obtain ⟨-, rfl⟩ := id h
  rw [Deck.nameScreen, Deck.nameScreen, names_eq]
  cases d.names.screens.lookup name with
  | none => exact hnamed
  | some o => exact hnamed.letGo _

theorem dropScreen (h : Reparented r p d e) (name : String) :
    (e.dropScreen name).1 = (d.dropScreen name).1 ∧
      Reparented r p (d.dropScreen name).2 (e.dropScreen name).2 := by
  have hunnamed := h.map (f := fun d => { d with names.screens := Names.unbind d.names.screens name })
    (fun _ => rfl) fun _ => rfl
  obtain ⟨-, rfl⟩ := id h
  rw [Deck.dropScreen, Deck.dropScreen, names_eq]
  cases d.names.screens.lookup name with
  | none => exact ⟨rfl, h⟩
  | some o => exact ⟨rfl, hunnamed.letGo _⟩

theorem nameTree (h : Reparented r p d e) (name : String) (t : Ref .tree) :
    Reparented r p (d.nameTree name t) (e.nameTree name t) := by
  have hnamed := h.map (f := fun d => { d with names.trees := Names.bind d.names.trees name t })
    (fun _ => rfl) fun _ => rfl
  obtain ⟨-, rfl⟩ := id h
  rw [Deck.nameTree, Deck.nameTree, names_eq]
  cases d.names.trees.lookup name with
  | none => exact hnamed
  | some o => exact (hnamed.map (f := fun d => d.modifyTree o _) (fun _ => rfl) fun _ => rfl).letGo _

theorem nameTracker (h : Reparented r p d e) (name : String) (t : Ref .tracker) :
    Reparented r p (d.nameTracker name t) (e.nameTracker name t) := by
  obtain ⟨hr, rfl⟩ := h
  rw [Deck.nameTracker, Deck.nameTracker, names_eq]
  cases d.names.trackers.lookup name <;> exact ⟨hr, rfl⟩

theorem dropTracker (h : Reparented r p d e) (name : String) :
    (e.dropTracker name).1 = (d.dropTracker name).1 ∧
      Reparented r p (d.dropTracker name).2 (e.dropTracker name).2 := by
  obtain ⟨hr, rfl⟩ := h
  rw [Deck.dropTracker, Deck.dropTracker, names_eq]
  cases d.names.trackers.lookup name <;> exact ⟨rfl, hr, rfl⟩

theorem nameSubscription (h : Reparented r p d e) (name : String) (x : Subscription) :
    Reparented r p (d.nameSubscription name x) (e.nameSubscription name x) := by
  obtain ⟨hr, rfl⟩ := id h
  have hnamed := h.map (f := fun d => { d with
    names.subscriptions := Names.bind d.names.subscriptions name x }) (fun _ => rfl) fun _ => rfl
  rw [Deck.nameSubscription, Deck.nameSubscription, names_eq]
  cases d.names.subscriptions.lookup name with
  | none => exact hnamed
  | some o => exact (hnamed.release o).2

theorem dropSubscription (h : Reparented r p d e) (name : String) :
    (e.dropSubscription name).1 = (d.dropSubscription name).1 ∧
      Reparented r p (d.dropSubscription name).2 (e.dropSubscription name).2 := by
  obtain ⟨-, rfl⟩ := id h
  have hunnamed := h.map (f := fun d => { d with
    names.subscriptions := Names.unbind d.names.subscriptions name }) (fun _ => rfl) fun _ => rfl
  rw [Deck.dropSubscription, Deck.dropSubscription, names_eq]
  cases d.names.subscriptions.lookup name with
  | none => exact ⟨rfl, h⟩
  | some o => exact ⟨rfl, (hunnamed.release o).2⟩

theorem releaseNamed (h : Reparented r p d e) (name : String) (x : Subscription) :
    (Deck.releaseNamed name x e).1 = (Deck.releaseNamed name x d).1 ∧
      Reparented r p (Deck.releaseNamed name x d).2 (Deck.releaseNamed name x e).2 := by
  obtain ⟨hremoved, hreleased⟩ := h.release x
  refine ⟨hremoved, ?_⟩
  exact hreleased.map (f := fun d => { d with
    names.subscriptions := Names.bind d.names.subscriptions name { x with active := false } })
    (fun _ => rfl) fun _ => rfl

theorem nameContainer (h : Reparented r p d e) (name : String) (k : Ref .container) :
    Reparented r p (d.nameContainer name k) (e.nameContainer name k) := by
  obtain ⟨hr, rfl⟩ := h
  rw [Deck.nameContainer, Deck.nameContainer, names_eq]
  cases d.names.containers.lookup name <;> exact ⟨hr, rfl⟩

theorem namePanel (h : Reparented r p d e) (name : String) (k : Ref .panel) :
    Reparented r p (d.namePanel name k) (e.namePanel name k) := by
  obtain ⟨hr, rfl⟩ := h
  rw [Deck.namePanel, Deck.namePanel, names_eq]
  cases d.names.panels.lookup name <;> exact ⟨hr, rfl⟩

theorem dropParent (h : Reparented r p d e) (name : String) :
    (e.dropParent name).1 = (d.dropParent name).1 ∧
      Reparented r p (d.dropParent name).2 (e.dropParent name).2 := by
  obtain ⟨hr, rfl⟩ := h
  exact ⟨rfl, hr, rfl⟩

end Reparented
end Deck
end ScreenDeck
