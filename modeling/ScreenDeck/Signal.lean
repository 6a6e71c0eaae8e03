import ScreenDeck.Slots
import ScreenDeck.Text.Quoted

/-! Signals. A signal calls the listeners that are connected when an emission starts. -/

namespace ScreenDeck

structure Signal (α : Type) where
  slots : Slots α := {}
  blocked : Bool := false

namespace Signal

variable {α : Type}

def connect (s : Signal α) (listener : α) : SlotKey × Signal α :=
  let (key, slots) := s.slots.insert listener
  (key, { s with slots })

def disconnect (s : Signal α) (key : SlotKey) : Bool × Signal α :=
  let (removed, slots) := s.slots.remove key
  (removed, { s with slots })

def count (s : Signal α) : Nat := s.slots.size

/-- Whom an emission calls that starts now. -/
def audience (s : Signal α) : List α := if s.blocked then [] else s.slots.values

def debugText (s : Signal α) : String :=
  Text.record "Signal"
    [("connections", toString s.count), ("blocked", toString s.blocked)] true

theorem audience_of_blocked {s : Signal α} (h : s.blocked) : s.audience = [] := by
  simp [audience, h]

end Signal

/-- A subscription to a signal disconnects at most once. -/
structure Subscription where
  key : SlotKey
  active : Bool := true

namespace Subscription

def debugText (s : Subscription) : String :=
  Text.record "Subscription" [("active", toString s.active)] true

end Subscription
end ScreenDeck
