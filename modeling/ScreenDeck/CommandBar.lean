import ScreenDeck.Failure
import ScreenDeck.Identity
import ScreenDeck.Store

/-! Command bars and the registry of their items. A bar may be seen by many, so it is an object of
its own. Its manager knows the items and replaces the bar when it is reset. -/

namespace ScreenDeck

structure CommandBar where
  visible : Bool := false
deriving DecidableEq, Inhabited

/-- The registered items with their indices, and the next index. -/
structure Registry where
  items : Array (Handle × Int32) := #[]
  seed : Int32 := 0
deriving DecidableEq, Inhabited

namespace Registry

/-- The largest index has no successor, so it is never given out. -/
def register (r : Registry) (item : Handle) : Except Failure Int32 × Registry :=
  if r.seed = Int32.maxValue then (.error (.invalidState .indexSpaceExhausted), r)
  else (.ok r.seed, ⟨r.items.push (item, r.seed), r.seed + 1⟩)

/-- Registers an item several times, and gives what came of the last time. -/
def registerTimes (item : Handle) : Nat → Registry → Option (Except Failure Int32) × Registry
  | 0, r => (none, r)
  | 1, r =>
    let (outcome, r) := r.register item
    (some outcome, r)
  | times + 2, r => registerTimes item (times + 1) (r.register item).2

def indexOf? (r : Registry) (item : Handle) : Option Int32 :=
  (r.items.find? (·.1 = item)).map (·.2)

theorem register_eq_ok {r : Registry} (h : r.seed ≠ Int32.maxValue) (item : Handle) :
    r.register item = (.ok r.seed, ⟨r.items.push (item, r.seed), r.seed + 1⟩) := by
  simp [register, h]

end Registry

/-- A manager has its current bar, a flag that says whether the bar shows, and the registry. -/
structure BarManager where
  bar : Ref .bar
  visible : Bool := false
  registry : Registry := {}
deriving DecidableEq, Inhabited

end ScreenDeck
