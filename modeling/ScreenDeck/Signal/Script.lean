import ScreenDeck.Signal

/-! Scripts on a signal of numbers. The listeners run commands of their own on the same signal,
so emissions nest, and a listener may even put a new signal in place of the one that calls it. -/

namespace ScreenDeck.Script

inductive Command where
  | connect (slot : String) (body : List Command)
  | disconnect (slot : String)
  | subscribe (slot : String) (body : List Command)
  | release (slot : String)
  | active (slot : String)
  | drop (slot : String)
  | emit (value : Int32)
  | countdown
  | block (value : Bool)
  | state
  | replace

structure Listener where
  slot : String
  body : List Command

inductive Answer where
  | done
  | unknown
  | truth (b : Bool)
  | activity (active : Bool) (shown : String)
  | state (count : Nat) (blocked : Bool) (shown : String)

/-- What a listener did: it was called, or one of its commands came to an end. -/
inductive Call where
  | called (slot : String) (value : Int32)
  | answered (slot : String) (value : Int32) (answer : Answer)

/-- A signal with the number of its emissions under way. -/
structure Source where
  signal : Signal Listener := {}
  emissions : Nat := 0

structure Held where
  source : Nat
  subscription : Subscription

/-- All signals so far, of which the last is in place, and the names in use. -/
structure Bench where
  retired : List Source := []
  current : Source := {}
  keys : List (String × SlotKey) := []
  held : List (String × Held) := []
  calls : Array Call := #[]

namespace Bench

def number (b : Bench) : Nat := b.retired.length

def source? (b : Bench) (n : Nat) : Option Source :=
  if n = b.number then some b.current else b.retired[n]?

def modifySource (b : Bench) (n : Nat) (f : Source → Source) : Bench :=
  if n = b.number then { b with current := f b.current }
  else { b with retired := b.retired.modify n f }

/-- A signal lives while it is in place, and after that while it is emitting. -/
def alive (b : Bench) (n : Nat) : Bool :=
  n = b.number || ((b.source? n).map fun s => decide (0 < s.emissions)).getD false

def modifySignal (b : Bench) (f : Signal Listener → Signal Listener) : Bench :=
  { b with current := { b.current with signal := f b.current.signal } }

def connect (b : Bench) (l : Listener) : SlotKey × Bench :=
  let (key, signal) := b.current.signal.connect l
  (key, { b with current := { b.current with signal } })

/-- Releases a subscription. The flag tells whether that disconnected anything. -/
def release (b : Bench) (h : Held) : Bool × Bench :=
  match b.source? h.source with
  | some s =>
    if h.subscription.active && b.alive h.source then
      let (removed, signal) := s.signal.disconnect h.subscription.key
      (removed, b.modifySource h.source fun s => { s with signal })
    else (false, b)
  | none => (false, b)

def without {α : Type} (slot : String) (xs : List (String × α)) : List (String × α) :=
  xs.filter (·.1 ≠ slot)

def dropHeld (b : Bench) (slot : String) : Bool × Bench :=
  match b.held.lookup slot with
  | none => (false, b)
  | some h =>
    let (_, b) := b.release h
    (true, { b with held := without slot b.held })

def note (b : Bench) (c : Call) : Bench := { b with calls := b.calls.push c }

/-- Commands that start no emission. -/
def perform (b : Bench) : Command → Answer × Bench
  | .connect slot body =>
    let (key, b) := b.connect ⟨slot, body⟩
    (.done, { b with keys := (slot, key) :: without slot b.keys })
  | .disconnect slot =>
    match b.keys.lookup slot with
    | none => (.unknown, b)
    | some key =>
      let (removed, signal) := b.current.signal.disconnect key
      (.truth removed, { b with current := { b.current with signal } })
  | .subscribe slot body =>
    let (key, b) := b.connect ⟨slot, body⟩
    let (_, b) := b.dropHeld slot
    (.done, { b with held := (slot, ⟨b.number, ⟨key, true⟩⟩) :: b.held })
  | .release slot =>
    match b.held.lookup slot with
    | none => (.unknown, b)
    | some h =>
      let (removed, b) := b.release h
      let spent := { h with subscription := { h.subscription with active := false } }
      (.truth removed, { b with held := (slot, spent) :: without slot b.held })
  | .active slot =>
    match b.held.lookup slot with
    | none => (.unknown, b)
    | some h => (.activity h.subscription.active h.subscription.debugText, b)
  | .drop slot =>
    let (found, b) := b.dropHeld slot
    (.truth found, b)
  | .block value => (.done, b.modifySignal fun s => { s with blocked := value })
  | .state =>
    let s := b.current.signal
    (.state s.count s.blocked s.debugText, b)
  | .replace =>
    (.done, { b with retired := b.retired ++ [b.current], current := {}, keys := [] })
  | .emit _ | .countdown => (.done, b)

/-- Runs one command, given what an emission does. The argument is that of the call the command
belongs to, if it belongs to one. -/
def runWith (emission : Int32 → Bench → Option Bench) (argument : Option Int32) (c : Command)
    (b : Bench) : Option (Answer × Bench) :=
  match c with
  | .emit value => (emission value b).map (Answer.done, ·)
  | .countdown =>
    match argument with
    | none => some (.done, b)
    | some value =>
      if 1 < value then (emission (value - 1) b).map (Answer.done, ·) else some (.done, b)
  | c => some (b.perform c)

/-- Calls one listener: its commands run in turn. -/
def callWith (emission : Int32 → Bench → Option Bench) (value : Int32) (b : Bench) (l : Listener) :
    Option Bench :=
  l.body.foldlM (fun b c => do
    let (answer, b) ← runWith emission (some value) c b
    some (b.note (.answered l.slot value answer))) (b.note (.called l.slot value))

/-- Calls the listeners that are connected at the start, in turn. Emissions stand in one another
at most `depth` deep, and deeper ones give nothing. -/
def emit : Nat → Int32 → Bench → Option Bench
  | 0, _, _ => none
  | depth + 1, value, b => do
    let n := b.number
    let b' := b.modifySource n fun s => { s with emissions := s.emissions + 1 }
    let b' ← b.current.signal.audience.foldlM (callWith (emit depth) value) b'
    some (b'.modifySource n fun s => { s with emissions := s.emissions - 1 })

def run (depth : Nat) : Option Int32 → Command → Bench → Option (Answer × Bench) :=
  runWith (emit depth)

structure Report where
  answer : Answer
  calls : List Call
  count : Nat
  blocked : Bool

def step (depth : Nat) (b : Bench) (c : Command) : Option (Report × Bench) := do
  let (answer, b) ← run depth none c { b with calls := #[] }
  let s := b.current.signal
  some (⟨answer, b.calls.toList, s.count, s.blocked⟩, b)

def reports (depth : Nat) : Bench → List Command → Option (List Report)
  | _, [] => some []
  | b, c :: cs => do
    let (r, b) ← step depth b c
    let rs ← reports depth b cs
    some (r :: rs)

end Bench
end ScreenDeck.Script
