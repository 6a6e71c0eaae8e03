import ScreenDeck.Deck.Screens

/-! What can be seen of a deck, and what steps reply. -/

namespace ScreenDeck.Session

structure BarView where
  number : Nat
  visible : Bool
deriving DecidableEq

structure PageView where
  size : Size
  content : Option ViewId
  bar : Option BarView
deriving DecidableEq

structure ChildView where
  handle : Handle
  view : ViewId
deriving DecidableEq

inductive Reply where
  | nothing
  | missing
  | panicked
  | truth (b : Bool)
  | number (n : Int)
  | text (s : String)
  | size (s : Size)
  | bar (b : BarView)
  | cell (row column : Nat)
  | child (c : ChildView)
  | switch (generation : Nat) (current : Bool) (shown : String)
  | released (removed active : Bool)
  | identity (handle : Handle) (view : ViewId)
  | success (r : Reply)
  | failure (f : Failure)
  | onGrid (r : Reply) (grid : Grid)
  | onManager (r : Reply) (bar : BarView) (manager : BarManager)
  | onTree (r : Reply) (children : List ChildView)
  | onPresenter (r : Reply) (generation : Nat) (view : ViewId)

def Reply.option {α : Type} (f : α → Reply) : Option α → Reply
  | none => .nothing
  | some a => f a

structure ScreenView where
  title : String
  bar : BarView
  barVisible : Bool
  grid : Grid
  children : List Handle
  parent : Except Failure (Option Handle)
  shown : Reply
  disposed : Bool

open Deck

def barView (d : Deck) (r : Ref .bar) : BarView := ⟨barNumber r, (d.bars.get r).visible⟩

def pageView (d : Deck) : Option PageView :=
  d.page.map fun p =>
    ⟨p.size, p.content.map fun g => (d.grids.get g).view, p.bar.map (barView d)⟩

def childView (d : Deck) (c : Child) : ChildView := ⟨d.handleOf c, d.viewOf c⟩

def parentHandle (d : Deck) : Parent → Handle
  | .container p => (d.containers.get p).handle
  | .panel p => (d.panels.get p).handle
  | .screen s => (d.screens.get s).handle

def outcome (a : Do Reply) : Do Reply := do
  match ← Act.attempt a with
  | .ok r => return .success r
  | .error (.failed f) => return .failure f
  | .error e => throw e

/-- A panic is a reply, too. -/
def guarded (a : Do Reply) : Do Reply := do
  match ← Act.attempt a with
  | .ok r => return r
  | .error (.failed f) => return .failure f
  | .error .panicked => return .panicked
  | .error .hung => Act.hang

def screenView (s : Ref .screen) : Do ScreenView := do
  let parent ← Act.attempt (parent s)
  let shown ← guarded (outcome do return .truth (← isShown s))
  let d ← Act.state
  let screen := d.screens.get s
  let manager := d.managers.get screen.manager
  return {
    title := screen.title
    bar := barView d manager.bar
    barVisible := manager.visible
    grid := d.grids.get screen.grid
    children := (d.trees.get screen.tree).children.map d.handleOf
    parent := match parent with
      | .ok p => .ok (p.map (parentHandle d))
      | .error (.failed f) => .error f
      | .error _ => .ok none
    shown
    disposed := screen.disposed }

end ScreenDeck.Session
