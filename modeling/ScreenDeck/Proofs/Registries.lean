import ScreenDeck.CommandBar

/-! Registries of command bar items. A registry numbers its items in the order in which they come, and
an item that comes more than once is found under its first number. -/

namespace ScreenDeck

namespace Registry

variable {r : Registry} {items : List Handle}

def capacity : Nat := 0x7fffffff

/-- The registry has these items, each under the number of those before it. -/
structure Lists (r : Registry) (items : List Handle) : Prop where
  entries : r.items.toList = items.zipIdx.map fun x => (x.1, Int32.ofNat x.2)
  seed : r.seed = Int32.ofNat items.length
  fits : items.length ≤ capacity

theorem lists_empty : Lists {} [] := ⟨rfl, rfl, Nat.zero_le _⟩

namespace Lists

theorem seed_eq_maxValue_iff (h : r.Lists items) :
    r.seed = Int32.maxValue ↔ items.length = capacity := by
  have hfits := h.fits
  have hcapacity : capacity < 2 ^ 31 := by decide
  rw [h.seed, ← Int32.toInt_inj, Int32.toInt_ofNat_of_lt (by omega)]
  change (items.length : Int) = (capacity : Int) ↔ _
  omega

/-- As long as there are indices, an item gets the number of those before it. -/
theorem register_of_lt (h : r.Lists items) (hroom : items.length < capacity) (item : Handle) :
    (r.register item).1 = .ok (Int32.ofNat items.length) ∧
      (r.register item).2.Lists (items ++ [item]) := by
  have hseed : r.seed ≠ Int32.maxValue := fun he => by
    have := h.seed_eq_maxValue_iff.mp he
    omega
  rw [register_eq_ok hseed]
  refine ⟨by rw [h.seed], ⟨?_, ?_, ?_⟩⟩
  · simp [h.entries, h.seed, List.zipIdx_append]
  · rw [h.seed, List.length_append, Int32.ofNat_add]
    rfl
  · simp only [List.length_append, List.length_singleton]
    omega

theorem register_of_full (h : r.Lists items) (hfull : items.length = capacity) (item : Handle) :
    r.register item = (.error (.invalidState .indexSpaceExhausted), r) := by
  rw [register, if_pos (h.seed_eq_maxValue_iff.mpr hfull)]

/-- Of an item that is registered more than once, the first index is found. -/
theorem find?_entries (items : List Handle) (item : Handle) (start : Nat) :
    (((items.zipIdx start).map fun x => (x.1, Int32.ofNat x.2)).find? (·.1 = item)).map (·.2) =
      (items.idxOf? item).map fun i => Int32.ofNat (start + i) := by
  induction items generalizing start with
  | nil => rfl
  | cons a items ih =>
    rw [List.zipIdx_cons, List.map_cons, List.idxOf?_cons]
    by_cases ha : a = item
    · simp [ha]
    · rw [List.find?_cons_of_neg (by simpa using ha), ih, if_neg (by simpa using ha), Option.map_map]
      refine congrArg (Option.map · _) (funext fun i => ?_)
      change Int32.ofNat (start + 1 + i) = Int32.ofNat (start + (i + 1))
      rw [Nat.add_right_comm, Nat.add_assoc]

theorem indexOf?_eq (h : r.Lists items) (item : Handle) :
    r.indexOf? item = (items.idxOf? item).map Int32.ofNat := by
  rw [indexOf?, ← Array.find?_toList, h.entries, find?_entries]
  simp

end Lists

/-- Items that come when there are no indices left are not in the registry. -/
def Numbers (r : Registry) (items : List Handle) : Prop := r.Lists (items.take capacity)

theorem numbers_empty : Numbers {} [] := lists_empty

namespace Numbers

theorem register_fst (h : r.Numbers items) (item : Handle) :
    (r.register item).1 = if items.length < capacity then .ok (Int32.ofNat items.length)
      else .error (.invalidState .indexSpaceExhausted) := by
  have hlength : (items.take capacity).length = min capacity items.length := List.length_take
  by_cases hroom : items.length < capacity
  · rw [if_pos hroom, (Lists.register_of_lt h (by omega) item).1, hlength, Nat.min_eq_right (by omega)]
  · rw [if_neg hroom, Lists.register_of_full h (by omega)]

/-- When there is no index left, the item is turned away and the others keep theirs. -/
theorem register (h : r.Numbers items) (item : Handle) :
    (r.register item).2.Numbers (items ++ [item]) := by
  have hlength : (items.take capacity).length = min capacity items.length := List.length_take
  by_cases hroom : items.length < capacity
  · have hitems : items.take capacity = items := List.take_of_length_le (by omega)
    have hmore : (items ++ [item]).take capacity = items ++ [item] :=
      List.take_of_length_le (by simp only [List.length_append, List.length_singleton]; omega)
    rw [Numbers, hitems] at h
    rw [Numbers, hmore]
    exact (h.register_of_lt hroom item).2
  -- The item is refused, and so are all after it.
  · have hsame : (items ++ [item]).take capacity = items.take capacity :=
      List.take_append_of_le_length (by omega)
    rw [Numbers, hsame, Lists.register_of_full h (by omega)]
    exact h

end Numbers
end Registry

inductive ItemCall where
  | register (item : Handle)
  | reset
deriving DecidableEq

namespace ItemCall

def apply (r : Registry) : ItemCall → Registry
  | register item => (r.register item).2
  | reset => {}

def next (items : List Handle) : ItemCall → List Handle
  | register item => items ++ [item]
  | reset => []

/-- The items that have come since the registry last started over. -/
def itemsSince (calls : List ItemCall) : List Handle := calls.foldl next []

theorem numbers_apply {r : Registry} {items : List Handle} (h : r.Numbers items) (c : ItemCall) :
    (c.apply r).Numbers (c.next items) := by
  cases c with
  | register item => exact h.register item
  | reset => exact Registry.numbers_empty

theorem numbers_foldl {r : Registry} {items : List Handle} (h : r.Numbers items)
    (calls : List ItemCall) : (calls.foldl apply r).Numbers (calls.foldl next items) := by
  induction calls generalizing r items with
  | nil => exact h
  | cons c calls ih => exact ih (numbers_apply h c)

theorem numbers_itemsSince (calls : List ItemCall) :
    (calls.foldl apply {}).Numbers (itemsSince calls) := numbers_foldl Registry.numbers_empty calls

end ItemCall
end ScreenDeck
