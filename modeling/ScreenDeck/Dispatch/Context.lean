import ScreenDeck.Failure
import ScreenDeck.Notice
import ScreenDeck.Text.Quoted

/-! The UI context. Work on visible things runs on one thread. An inline context runs it where the
caller is. A dedicated context has a loop on a thread of its own, and a caller elsewhere hands the
work over and waits. Work that panics is contained, and a context that was shut down takes no more
work. -/

namespace ScreenDeck

inductive Thread where
  | main
  | ui
  | helper
deriving DecidableEq

inductive Message where
  | work
  | wake
deriving DecidableEq

/-- The loop of a dedicated context. While it is `busy` it receives nothing. -/
structure Loop where
  inbox : List Message := []
  busy : Bool := false
  ended : Bool := false
deriving DecidableEq

inductive Mode where
  | inPlace
  | dedicated
deriving DecidableEq

structure Context where
  mode : Mode
  running : Bool := true
  thread : Thread := .main
  loop : Loop := {}
deriving DecidableEq

namespace Context

def home (c : Context) : Thread :=
  match c.mode with
  | .inPlace => .main
  | .dedicated => .ui

def onHomeThread (c : Context) : Bool := c.thread = c.home

def modeText (c : Context) : String :=
  match c.mode with
  | .inPlace => "inline"
  | .dedicated => "dedicated"

/-- The number of the thread is left out. -/
def debugText (c : Context) : String :=
  Text.record "UiContext"
    [("mode", Text.quoted c.modeText), ("thread", "ThreadId(_)"),
     ("running", toString c.running)] true

end Context

/-- How an action ends without a value: it fails, it panics, or it waits for ever. -/
inductive Abort where
  | failed (f : Failure)
  | panicked
  | hung
deriving DecidableEq

/-- What actions act on: the context, the notices so far, and a state of their own. -/
structure Scene (σ : Type) where
  context : Context
  notices : List Notice := []
  state : σ

/-- An action. What it did before it was aborted stays done. -/
abbrev Act (σ : Type) := ExceptT Abort (StateM (Scene σ))

namespace Act

variable {σ α : Type}

def state : Act σ σ := return (← get).state

def modifyState (f : σ → σ) : Act σ Unit := modify fun s => { s with state := f s.state }

def context : Act σ Context := return (← get).context

def modifyContext (f : Context → Context) : Act σ Unit :=
  modify fun s => { s with context := f s.context }

def note (n : Notice) : Act σ Unit := modify fun s => { s with notices := s.notices ++ [n] }

def fail (f : Failure) : Act σ α := throw (.failed f)

def panic : Act σ α := throw .panicked

def hang : Act σ α := throw .hung

def attempt (a : Act σ α) : Act σ (Except Abort α) :=
  ExceptT.mk (fun s => let (r, s) := a s; (.ok r, s))

def settle : Except Abort α → Act σ α
  | .ok a => pure a
  | .error e => throw e

/-- Runs an action on another thread and comes back, however the action ends. -/
def onThread (t : Thread) (a : Act σ α) : Act σ α := do
  let caller := (← context).thread
  modifyContext fun c => { c with thread := t }
  let r ← attempt a
  modifyContext fun c => { c with thread := caller }
  settle r

def contained (work : Act σ α) : Act σ α := do
  match ← attempt work with
  | .error .panicked =>
    note .workPanicked
    fail (.dispatch .workPanicked)
  | r => settle r

namespace Loop

/-- Puts a message into the inbox of the loop. Nobody receives it once the loop has ended. -/
def send (m : Message) : Act σ Unit :=
  modifyContext fun c => { c with loop := { c.loop with inbox := c.loop.inbox ++ [m] } }

/-- The loop receives all that lies in its inbox. Of the messages only work has an effect. -/
def receive : Act σ Unit :=
  modifyContext fun c => { c with loop := { c.loop with inbox := [] } }

/-- After every message the loop looks at the flag. Once it is down, the loop takes what it has
already accepted, and ends. -/
def turn : Act σ Unit := do
  unless (← context).running do
    receive
    modifyContext fun c => { c with loop := { c.loop with ended := true } }

/-- The loop runs one piece of work on its own thread. -/
def serve (work : Act σ α) : Act σ (Except Abort α) := do
  receive
  modifyContext fun c => { c with loop := { c.loop with busy := true } }
  let r ← attempt (onThread .ui (contained work))
  modifyContext fun c => { c with loop := { c.loop with busy := false } }
  turn
  pure r

end Loop

/-- Hands work over to the loop and waits for its result. A loop that has ended takes nothing, and
one that is itself waiting for the caller never answers. -/
def handOver (work : Act σ α) : Act σ α := do
  if (← context).loop.ended then fail (.dispatch .stopped)
  Loop.send .work
  if (← context).loop.busy then hang
  settle (← Loop.serve work)

def runSync (work : Act σ α) : Act σ α := do
  let c ← context
  if !c.running then fail (.dispatch .stopped)
  else if c.mode = .inPlace || c.onHomeThread then contained work
  else handOver work

/-- Takes the flag down for good. From its own thread the loop ends after the work at hand. From
elsewhere the caller waits until the loop has ended. -/
def shutdown : Act σ Unit := do
  let c ← context
  modifyContext fun c => { c with running := false }
  if c.running then note .contextShuttingDown
  if c.mode = .dedicated then
    if c.running && !c.loop.ended then Loop.send .wake
    if !c.onHomeThread then
      if c.loop.busy then hang
      Loop.turn

end Act
end ScreenDeck
