/-! Names of things on the host side: handles, which callers choose, and views, which are
allotted one after the other. -/

namespace ScreenDeck

structure Handle where
  raw : Int32
deriving DecidableEq, Inhabited

namespace Handle

def text (h : Handle) : String := "#" ++ toString h.raw.toInt

/-- Handles are ordered as signed numbers. -/
def order (a b : Handle) : Ordering :=
  if a.raw < b.raw then .lt else if a = b then .eq else .gt

theorem order_eq_iff (a b : Handle) : a.order b = .eq ↔ a = b := by
  unfold order
  by_cases h : a = b
  · subst h
    simp
  · by_cases hl : a.raw < b.raw <;> simp [h, hl]

end Handle

structure ViewId where
  number : Nat
deriving DecidableEq, Inhabited

end ScreenDeck
