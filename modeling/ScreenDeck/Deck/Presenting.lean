import ScreenDeck.Deck.Page

/-! Presentation: a presenter puts its grid on the page, at once or through a content switch. -/

namespace ScreenDeck.Deck

/-- A further request, after which the switches of earlier ones are stale. The number is not bounded here,
and is that of a counter of 64 bits for fewer than 2^64 requests of one presenter. -/
def nextGeneration (p : Ref .presenter) : Do Nat := do
  Act.modifyState fun d => d.modifyPresenter p fun x => { x with generation := x.generation + 1 }
  return ((← Act.state).presenters.get p).generation

def showBar : Option (Ref .bar) → Do Unit
  | some bar => setPageBar bar
  | none => pure ()

/-- The bar comes first, then the content, in one piece of work. -/
def present (p : Ref .presenter) (bar : Option (Ref .bar)) : Do Unit := do
  discard (nextGeneration p)
  Act.runSync do
    showBar bar
    setPageContent ((← Act.state).presenters.get p).grid
  Act.note .screenPresented

/-- A switch is current as long as its presenter has had no later request. -/
def isCurrent (d : Deck) (s : Switch) : Bool :=
  (d.presenters.get s.presenter).generation = s.generation

/-- Changes the content if the switch is current, and tells whether it was. -/
def invoke (s : Switch) : Do Bool := do
  let switched ← Act.runSync do
    let d ← Act.state
    if d.isCurrent s then
      setPageContent (d.presenters.get s.presenter).grid
      return true
    else return false
  unless switched do Act.note .staleSwitch
  return switched

/-- Invokes a switch at once. A failure goes no further than a notice. -/
def runImmediate (s : Switch) : Do Unit := do
  match ← Act.attempt (invoke s) with
  | .error (.failed _) => Act.note .switchFailed
  | r => discard (Act.settle r)

def runTransition (engine : Engine) (kind : Int32) (s : Switch) : Do Unit := do
  match engine with
  | .immediate => runImmediate s
  | .host =>
    Act.modifyState fun d => { d with transitions := d.transitions ++ [kind] }
    match (← Act.state).engineMode with
    | .immediate => runImmediate s
    | .deferred => Act.modifyState fun d => { d with pending := d.pending ++ [s] }
    | .drop => pure ()
    | .panic => Act.panic

/-- The bar comes first, then the engine gets the content switch, in one piece of work. -/
def presentWithTransition (p : Ref .presenter) (bar : Option (Ref .bar)) (kind : Int32) :
    Do Unit := do
  let generation ← nextGeneration p
  let engine := ((← Act.state).presenters.get p).engine
  Act.runSync do
    showBar bar
    runTransition engine kind ⟨p, generation⟩
  Act.note .transitionStarted

def isCurrentContent (p : Ref .presenter) : Do Bool := do
  let shown ← pageContent
  return shown = some ((← Act.state).presenters.get p).grid

def switchText (d : Deck) (s : Switch) : String :=
  Text.record "SwitchContent"
    [("generation", toString s.generation), ("current", toString (d.isCurrent s))] false

end ScreenDeck.Deck
