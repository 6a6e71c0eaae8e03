import ScreenDeck.Proofs.Moves

/-! What the moves of a deck have to do with its listeners. Most moves concern no listener, and those
that do come in fixed groups: a listener ends together with the screen or the name that holds it. -/

namespace ScreenDeck

structure Life where
  handle : Handle
  tracker : Ref .tracker
  subscription : Subscription
  disposed : Bool
  alive : Bool

def Screen.life (x : Screen) : Life := ⟨x.handle, x.tracker, x.subscription, x.disposed, x.alive⟩

namespace Deck

variable {d e f : Deck} {v : Option Event}

/-- A change that concerns no listener. -/
structure Aside (d e : Deck) : Prop where
  slots : e.orientation.slots = d.orientation.slots
  trackers : e.trackers = d.trackers
  lives : ∀ r, (e.screens.get? r).map Screen.life = (d.screens.get? r).map Screen.life
  subscriptions : e.names.subscriptions = d.names.subscriptions
  named : e.names.trackers = d.names.trackers

def hearing (d : Deck) :=
  (d.orientation.slots, d.trackers, d.screens, d.names.subscriptions, d.names.trackers)

theorem Aside.of_eq (h : e.hearing = d.hearing) : Aside d e := by
  simp only [hearing, Prod.mk.injEq] at h
  obtain ⟨hslots, htrackers, hscreens, hsubscriptions, hnamed⟩ := h
  exact ⟨hslots, htrackers, fun r => by rw [hscreens], hsubscriptions, hnamed⟩

theorem aside_modifyScreen (d : Deck) (s : Ref .screen) {f : Screen → Screen}
    (hf : ∀ x, (f x).life = x.life) : Aside d (d.modifyScreen s f) where
  slots := rfl
  trackers := rfl
  subscriptions := rfl
  named := rfl
  lives r := Store.map_get?_modify d.screens s r hf

theorem Move.aside {v : Event} (hm : Move d (some v) e) : Aside d e := by
  cases hm <;> exact .of_eq rfl

def retire (s : Ref .screen) (d : Deck) : Deck :=
  (d.release (d.screens.get s).subscription).2.modifyScreen s fun x =>
    { x with disposed := true, subscription.active := false }

def takeTracker (name : String) (handle : Handle) (d : Deck) : Deck :=
  (d.makeTracker handle).2.nameTracker name (d.makeTracker handle).1

def attach (name : String) (t : Ref .tracker) (d : Deck) : Deck :=
  (d.listen (.tracker t)).2.nameSubscription name (d.listen (.tracker t)).1

/-- A relation that holds over all that is done with a deck, whatever its moves are. Only about the
moves that are events it says nothing. -/
class Spanning (R : Deck → Deck → Prop) : Prop extends Act.Steady (Act.OnState R) where
  aside : ∀ {d e}, Move d none e → Aside d e → R d e
  letGo : ∀ cs d, R d (d.letGo cs)
  retire : ∀ {s d}, (d.screens.get s).disposed = false → R d (d.retire s)
  makeScreen : ∀ handle d, R d (d.makeScreen handle).2
  takeTracker : ∀ name handle d, R d (d.takeTracker name handle)
  dropTracker : ∀ name d, R d (d.dropTracker name).2
  attach : ∀ {other t d}, d.names.trackers.lookup other = some t →
    ∀ name, R d (d.attach name t)
  releaseNamed : ∀ {name x d}, d.names.subscriptions.lookup name = some x →
    R d (releaseNamed name x d).2
  dropSubscription : ∀ name d, R d (d.dropSubscription name).2

def Admits (R : Deck → Deck → Prop) (v : Event) : Prop := ∀ {d e}, Move d (some v) e → R d e

end Deck
end ScreenDeck
