/-! A table of slots that outlive single uses. A removed slot is used again before the table
grows, the one freed last first. A key names one use of a slot, so a key of an earlier use finds
nothing. -/

namespace ScreenDeck

/-- One use of one slot. -/
structure SlotKey where
  index : Nat
  version : Nat
deriving DecidableEq, Inhabited

structure Slot (α : Type) where
  version : Nat
  value : Option α

structure Slots (α : Type) where
  cells : List (Slot α) := []
  free : List Nat := []

namespace Slots

variable {α : Type}

def values (s : Slots α) : List α := s.cells.filterMap (·.value)

def size (s : Slots α) : Nat := s.values.length

/-- What a key names, unless that use has ended. -/
def get? (s : Slots α) (key : SlotKey) : Option α :=
  match s.cells[key.index]? with
  | some cell => if cell.version = key.version then cell.value else none
  | none => none

def insert (s : Slots α) (a : α) : SlotKey × Slots α :=
  match s.free with
  | [] => (⟨s.cells.length, 0⟩, { s with cells := s.cells ++ [⟨0, some a⟩] })
  | index :: free =>
    let version := (s.cells[index]?.map (·.version)).getD 0
    (⟨index, version⟩, ⟨s.cells.modify index fun cell => { cell with value := some a }, free⟩)

/-- Ends the use that a key names. The flag tells whether there was one. -/
def remove (s : Slots α) (key : SlotKey) : Bool × Slots α :=
  if (s.get? key).isSome then
    (true, ⟨s.cells.modify key.index fun cell => ⟨cell.version + 1, none⟩, key.index :: s.free⟩)
  else (false, s)

@[simp]
theorem values_empty : ({} : Slots α).values = [] := rfl

theorem remove_of_get?_none {s : Slots α} {key : SlotKey} (h : s.get? key = none) :
    s.remove key = (false, s) := by
  simp [remove, h]

theorem fst_remove (s : Slots α) (key : SlotKey) : (s.remove key).1 = (s.get? key).isSome := by
  unfold remove
  split <;> simp_all

end Slots
end ScreenDeck
