import ScreenDeck.Binary.Single
import ScreenDeck.Identity

/-! Content grids. A grid has a filling row, below it a reserved row at times, and the views of
the children of its owner. -/

namespace ScreenDeck

inductive RowHeight where
  | star (weight : Single)
  | pixels (extent : Single)
deriving DecidableEq

structure GridCell where
  view : ViewId
  row : Nat
  column : Nat
deriving DecidableEq

structure Grid where
  view : ViewId
  rows : List RowHeight := [.star .one]
  cells : List GridCell := []
deriving DecidableEq, Inhabited

namespace Grid

def hasReservedRow (g : Grid) : Bool := 2 ≤ g.rows.length

/-- Puts a row of fixed extent below the filling row, unless one is there. -/
def reserveRow (g : Grid) (extent : Single) : Bool × Grid :=
  if g.hasReservedRow then (false, g)
  else (true, { g with rows := (g.rows ++ [RowHeight.pixels extent]).set 0 (.star .one) })

def releaseReservedRow (g : Grid) : Bool × Grid :=
  if g.hasReservedRow then (true, { g with rows := g.rows.eraseIdx 1 }) else (false, g)

def addView (g : Grid) (view : ViewId) : Grid := { g with cells := g.cells ++ [⟨view, 0, 0⟩] }

def removeView (g : Grid) (view : ViewId) : Bool × Grid :=
  (g.cells.any (·.view = view), { g with cells := g.cells.eraseP (·.view = view) })

def pinLast (g : Grid) : Grid :=
  { g with cells := g.cells.modify (g.cells.length - 1) fun c => { c with row := 0, column := 0 } }

def cellOf? (g : Grid) (view : ViewId) : Option GridCell := g.cells.find? (·.view = view)

/-- Of all children the last one added is on display. -/
def visibleView? (g : Grid) : Option ViewId := g.cells.getLast?.map (·.view)

@[simp]
theorem cells_reserveRow (g : Grid) (extent : Single) : (g.reserveRow extent).2.cells = g.cells := by
  unfold reserveRow
  split <;> rfl

@[simp]
theorem cells_releaseReservedRow (g : Grid) : g.releaseReservedRow.2.cells = g.cells := by
  unfold releaseReservedRow
  split <;> rfl

@[simp]
theorem rows_addView (g : Grid) (view : ViewId) : (g.addView view).rows = g.rows := rfl

@[simp]
theorem rows_removeView (g : Grid) (view : ViewId) : (g.removeView view).2.rows = g.rows := rfl

@[simp]
theorem rows_pinLast (g : Grid) : g.pinLast.rows = g.rows := rfl

end Grid
end ScreenDeck
