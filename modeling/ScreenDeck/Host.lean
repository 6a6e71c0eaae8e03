import ScreenDeck.Identity
import ScreenDeck.Size
import ScreenDeck.Store

/-! What the host brings: the page, ways to refuse calls, transition engines, and parents that
hold screens. -/

namespace ScreenDeck

/-- What the host does when a call comes in. A call that is refused or panics has no effect. -/
inductive FaultMode where
  | pass
  | refuse
  | panic
deriving DecidableEq

structure Page where
  size : Size
  content : Option (Ref .grid) := none
  bar : Option (Ref .bar) := none
deriving DecidableEq

inductive EngineMode where
  | immediate
  | deferred
  | drop
  | panic
deriving DecidableEq

/-- An engine invokes each switch at once, or it is the engine of the host. -/
inductive Engine where
  | immediate
  | host
deriving DecidableEq, Inhabited

/-- A presenter puts its grid on the page. Its generation is the number of requests so far, counted without
wrapping around: below 2^64 requests it is what a counter of 64 bits shows. -/
structure Presenter where
  grid : Ref .grid
  engine : Engine
  generation : Nat := 0
deriving DecidableEq, Inhabited

/-- The second half of an animated presentation: it changes the content, unless its presenter has
had a later request. -/
structure Switch where
  presenter : Ref .presenter
  generation : Nat
deriving DecidableEq, Inhabited

inductive ContainerMode where
  | plain
  | refuse
  | setsVisible (value : Bool)
  | shows
  | resets
deriving DecidableEq, Inhabited

/-- A parent that holds screens and is told of their command bars. -/
structure Container where
  handle : Handle
  mode : ContainerMode
  shown : Option Handle := none
  alive : Bool := true
deriving DecidableEq, Inhabited

structure Panel where
  handle : Handle
  alive : Bool := true
deriving DecidableEq, Inhabited

/-- A notification that a container received: the container, the child, and whether the bar of
the child shows. -/
structure Toggle where
  container : Handle
  child : Handle
  visible : Bool
deriving DecidableEq

end ScreenDeck
