import ScreenDeck.CommandBar
import ScreenDeck.Dispatch.Context
import ScreenDeck.Grid
import ScreenDeck.Host
import ScreenDeck.Record
import ScreenDeck.Settings
import ScreenDeck.Signal

/-! The deck: all screens and their parts, and the host they share. -/

namespace ScreenDeck

/-- A child of a screen. Only the handle and the view of a widget matter. -/
structure Widget where
  handle : Handle
  view : ViewId
deriving DecidableEq, Inhabited

/-- One and the same object counts as one child, however often it was added. -/
inductive Child where
  | widget (w : Ref .widget)
  | screen (s : Ref .screen)
deriving DecidableEq

/-- The children of one owner, whose views lie in a grid. -/
structure Tree where
  owner : Handle
  grid : Ref .grid
  children : List Child := []
deriving DecidableEq, Inhabited

/-- A tracker reports orientation changes under its handle. -/
structure Tracker where
  handle : Handle
  alive : Bool := true
deriving DecidableEq, Inhabited

/-- Who listens to the orientation of the device: a tracker, or a listener of the host that
disposes of a screen. -/
inductive Listener where
  | tracker (t : Ref .tracker)
  | disposer (s : Ref .screen)
deriving DecidableEq

inductive Parent where
  | container (p : Ref .container)
  | panel (p : Ref .panel)
  | screen (s : Ref .screen)
deriving DecidableEq

structure Screen where
  handle : Handle
  title : String := ""
  parent : Option Parent := none
  grid : Ref .grid
  tree : Ref .tree
  presenter : Ref .presenter
  manager : Ref .manager
  tracker : Ref .tracker
  subscription : Subscription
  disposed : Bool := false
  alive : Bool := true

instance : Inhabited Screen where
  default := {
    handle := ⟨0⟩, grid := ⟨0⟩, tree := ⟨0⟩, presenter := ⟨0⟩, manager := ⟨0⟩, tracker := ⟨0⟩,
    subscription := ⟨⟨0, 0⟩, false⟩, disposed := true, alive := false }

/-- Names that hold objects. A screen lives while a name or a list of children holds it, and all
other objects while a name or a screen does. -/
structure Names where
  widgets : List (String × Ref .widget) := []
  containers : List (String × Ref .container) := []
  panels : List (String × Ref .panel) := []
  bars : List (String × Ref .bar) := []
  managers : List (String × Ref .manager) := []
  grids : List (String × Ref .grid) := []
  trees : List (String × Ref .tree) := []
  presenters : List (String × Ref .presenter) := []
  trackers : List (String × Ref .tracker) := []
  screens : List (String × Ref .screen) := []
  subscriptions : List (String × Subscription) := []

def Names.bind {α : Type} (xs : List (String × α)) (name : String) (a : α) : List (String × α) :=
  (name, a) :: xs.filter (·.1 ≠ name)

def Names.unbind {α : Type} (xs : List (String × α)) (name : String) : List (String × α) :=
  xs.filter (·.1 ≠ name)

structure Deck where
  settings : Settings
  contentSize : Size
  page : Option Page := none
  orientation : Signal Listener := {}
  faults : HostCall → FaultMode := fun _ => .pass
  /-- Posted records, as long as somebody receives them. -/
  outbox : Option (List Posted) := some []
  screenEngine : Engine := .immediate
  engineMode : EngineMode := .immediate
  pending : List Switch := []
  transitions : List Int32 := []
  toggles : List Toggle := []
  /-- How many views have been allotted. -/
  views : Nat := 0
  widgets : Store .widget Widget := {}
  containers : Store .container Container := {}
  panels : Store .panel Panel := {}
  bars : Store .bar CommandBar := {}
  managers : Store .manager BarManager := {}
  grids : Store .grid Grid := {}
  trees : Store .tree Tree := {}
  presenters : Store .presenter Presenter := {}
  trackers : Store .tracker Tracker := {}
  screens : Store .screen Screen := {}
  names : Names := {}

namespace Deck

abbrev Do := Act Deck

def allotView (d : Deck) : ViewId × Deck := (⟨d.views + 1⟩, { d with views := d.views + 1 })

def barNumber (r : Ref .bar) : Nat := r.index + 1

def modifyBar (d : Deck) (r : Ref .bar) (f : CommandBar → CommandBar) : Deck :=
  { d with bars := d.bars.modify r f }

def modifyManager (d : Deck) (r : Ref .manager) (f : BarManager → BarManager) : Deck :=
  { d with managers := d.managers.modify r f }

def modifyGrid (d : Deck) (r : Ref .grid) (f : Grid → Grid) : Deck :=
  { d with grids := d.grids.modify r f }

def modifyTree (d : Deck) (r : Ref .tree) (f : Tree → Tree) : Deck :=
  { d with trees := d.trees.modify r f }

def modifyPresenter (d : Deck) (r : Ref .presenter) (f : Presenter → Presenter) : Deck :=
  { d with presenters := d.presenters.modify r f }

def modifyTracker (d : Deck) (r : Ref .tracker) (f : Tracker → Tracker) : Deck :=
  { d with trackers := d.trackers.modify r f }

def modifyScreen (d : Deck) (r : Ref .screen) (f : Screen → Screen) : Deck :=
  { d with screens := d.screens.modify r f }

def handleOf (d : Deck) : Child → Handle
  | .widget w => (d.widgets.get w).handle
  | .screen s => (d.screens.get s).handle

/-- The view of a screen is that of its grid. -/
def viewOf (d : Deck) : Child → ViewId
  | .widget w => (d.widgets.get w).view
  | .screen s => (d.grids.get (d.screens.get s).grid).view

def change {α : Type} (f : Deck → α × Deck) : Do α := do
  let (a, d) := f (← Act.state)
  Act.modifyState fun _ => d
  return a

def makeGrid (d : Deck) : Ref .grid × Deck :=
  let (view, d) := d.allotView
  let (r, grids) := d.grids.add { view }
  (r, { d with grids })

def makeBar (d : Deck) : Ref .bar × Deck :=
  let (r, bars) := d.bars.add {}
  (r, { d with bars })

def makeManager (d : Deck) : Ref .manager × Deck :=
  let (bar, d) := d.makeBar
  let (r, managers) := d.managers.add { bar }
  (r, { d with managers })

def makeTree (owner : Handle) (grid : Ref .grid) (d : Deck) : Ref .tree × Deck :=
  let (r, trees) := d.trees.add { owner, grid }
  (r, { d with trees })

def makePresenter (grid : Ref .grid) (engine : Engine) (d : Deck) : Ref .presenter × Deck :=
  let (r, presenters) := d.presenters.add { grid, engine }
  (r, { d with presenters })

def makeTracker (handle : Handle) (d : Deck) : Ref .tracker × Deck :=
  let (r, trackers) := d.trackers.add { handle }
  (r, { d with trackers })

end Deck
end ScreenDeck
