import ScreenDeck.Dispatch.Launch

/-! Programs of actions on one UI context: effects, questions, panics, shutdowns, pieces of work
that hold further actions, and helper threads that are joined at once. What a program does is its
trace. -/

namespace ScreenDeck

/-- One action of a program. The data of its effects and results are of any type. -/
inductive Action (δ : Type) where
  | push (value : δ)
  | panic
  | running
  | isUi
  | name
  | assert
  | debug
  | shutdown
  | run (result : δ) (body : List (Action δ))
  | thread (body : List (Action δ))

inductive Entry (δ : Type) where
  | push (value : δ)
  | running (flag : Bool)
  | isUi (onThread sameThread sameAffinity sameIdentity : Bool)
  | name (name : Option String)
  | assert (checked debugChecked : Bool)
  | debug (text : String)
  | shutdown
  | run (outcome : Except DispatchFailure δ)
  | thread (panicked : Bool)

namespace Action

variable {δ : Type}

/-- The state of a run: the name of the dedicated thread, and the trace so far. -/
structure Run (δ : Type) where
  threadName : String
  trace : List (Entry δ) := []

def record (e : Entry δ) : Act (Run δ) Unit :=
  Act.modifyState fun r => { r with trace := r.trace ++ [e] }

mutual

def perform : Action δ → Act (Run δ) Unit
  | .push value => record (.push value)
  | .panic => Act.panic
  | .running => do record (.running (← Act.context).running)
  | .isUi => do
    let here := (← Act.context).onHomeThread
    record (.isUi here here here true)
  | .name => do
    let c ← Act.context
    let run ← Act.state
    let named := c.mode = .dedicated && c.onHomeThread
    record (.name (if named then some run.threadName else none))
  | .assert => do
    let here := (← Act.context).onHomeThread
    record (.assert here here)
  | .debug => do record (.debug (← Act.context).debugText)
  | .shutdown => do
    Act.shutdown
    record .shutdown
  | .run result body => do
    match ← Act.attempt (Act.runSync (performAll body)) with
    | .ok _ => record (.run (.ok result))
    | .error (.failed (.dispatch d)) => record (.run (.error d))
    | .error e => throw e
  | .thread body => do
    match ← Act.attempt (Act.onThread .helper (performAll body)) with
    | .ok _ => record (.thread false)
    | .error .panicked => record (.thread true)
    | .error e => throw e

def performAll : List (Action δ) → Act (Run δ) Unit
  | [] => pure ()
  | a :: as => do
    perform a
    performAll as

end

structure Report (δ : Type) where
  trace : List (Entry δ)
  notices : List Notice

def start (mode : Mode) (settings : Settings) : Except Abort (Scene (Run δ)) := do
  let context ← Context.launch mode settings
  let started := if mode = .dedicated then [Notice.contextStarted] else []
  return ⟨context, started, { threadName := settings.threadName }⟩

/-- Runs a program on a new context, which is shut down at the end unless it is left alone. There is
nothing to see of a program that panics outside all work and all threads. -/
def report (mode : Mode) (settings : Settings) (leave : Bool) (body : List (Action δ)) :
    Except Abort (Report δ) := do
  let scene ← start mode settings
  let program : Act (Run δ) Unit := do
    performAll body
    unless leave do Act.shutdown
  match program scene with
  | (.ok _, scene) => return ⟨scene.state.trace, scene.notices⟩
  | (.error e, _) => throw e

end Action
end ScreenDeck
