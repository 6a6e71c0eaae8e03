import ScreenDeck.Deck.Presenting

/-! Command bars of screens: the flag of a manager, the bar it shows, the row it takes, and the
container that is told. -/

namespace ScreenDeck.Deck

/-- Sets the flag and the bar with it. A value that is already set changes nothing. -/
def setManagerVisible (m : Ref .manager) (value : Bool) : Do Bool := do
  let manager := (← Act.state).managers.get m
  if manager.visible = value then return false
  Act.modifyState fun d =>
    (d.modifyManager m fun x => { x with visible := value }).modifyBar manager.bar
      fun x => { x with visible := value }
  Act.note .barVisibilityChanged
  return true

def registerItem (m : Ref .manager) (item : Handle) : Do Int32 := do
  let (r, registry) := ((← Act.state).managers.get m).registry.register item
  Act.modifyState fun d => d.modifyManager m fun x => { x with registry }
  match r with
  | .ok index => return index
  | .error f => Act.fail f

/-- Starts over with a new bar that does not show, and no items. -/
def resetManager (m : Ref .manager) : Do (Ref .bar) := do
  let bar ← change makeBar
  Act.modifyState fun d => d.modifyManager m fun _ => { bar }
  Act.note .barReset
  return bar

def managerOf (s : Ref .screen) : Do (Ref .manager) :=
  return ((← Act.state).screens.get s).manager

def barVisible (d : Deck) (s : Ref .screen) : Bool :=
  (d.managers.get (d.screens.get s).manager).visible

/-- The parent of a screen, if it has one. A parent that was dropped is an error. -/
def parent (s : Ref .screen) : Do (Option Parent) := do
  let d ← Act.state
  match (d.screens.get s).parent with
  | none => return none
  | some p =>
    let alive := match p with
      | .container r => (d.containers.get r).alive
      | .panel r => (d.panels.get r).alive
      | .screen r => (d.screens.get r).alive
    if alive then return some p else Act.fail (.invalidState .parentDropped)

def visibleBar (d : Deck) (s : Ref .screen) : Option (Ref .bar) :=
  let manager := d.managers.get (d.screens.get s).manager
  if manager.visible then some manager.bar else none

def showScreen (s : Ref .screen) : Do Unit := do
  let d ← Act.state
  present (d.screens.get s).presenter (d.visibleBar s)
  Act.note .screenShown

/-- Starts over with the command bar, gives its row back, and puts the new bar on the page. -/
def removeOptionsMenu (s : Ref .screen) : Do Unit := do
  let bar ← resetManager (← managerOf s)
  let grid := ((← Act.state).screens.get s).grid
  Act.runSync do
    Act.modifyState fun d => d.modifyGrid grid fun g => g.releaseReservedRow.2
    setPageBar bar
  Act.note .optionsMenuRemoved

/-- Tells a container that the bar of a child has changed. The container may call back. -/
def notifyContainer (setVisible : Bool → Do Unit) (p : Ref .container) (s : Ref .screen) :
    Do Unit := do
  let d ← Act.state
  let container := d.containers.get p
  let toggle : Toggle := ⟨container.handle, (d.screens.get s).handle, d.barVisible s⟩
  Act.modifyState fun d => { d with toggles := d.toggles ++ [toggle] }
  match container.mode with
  | .plain => pure ()
  | .refuse => Act.fail (.invalidState .containerRefused)
  | .setsVisible value => setVisible value
  | .shows => showScreen s
  | .resets => removeOptionsMenu s

/-- Shows or hides the bar and tells the container that holds the screen. Notifications stand in one
another at most `depth` deep. -/
def setBarVisibleWithin : Nat → Ref .screen → Bool → Do Unit
  | 0, _, _ => Act.hang
  | depth + 1, s, value => do
    let p ← parent s
    if ← setManagerVisible (← managerOf s) value then
      match p with
      | some (.container k) => notifyContainer (setBarVisibleWithin depth s) k s
      | _ => pure ()

/-- A container that calls back always sets the same value, so the third call finds it set. -/
def setBarVisible (s : Ref .screen) (value : Bool) : Do Unit := setBarVisibleWithin 3 s value

def enableBar (s : Ref .screen) : Do Unit := do
  discard (parent s)
  let d ← Act.state
  let grid := (d.screens.get s).grid
  let reserved ← Act.runSync (change fun d =>
    let (reserved, g) := (d.grids.get grid).reserveRow d.settings.barExtent
    (reserved, d.modifyGrid grid fun _ => g))
  if reserved then Act.note .rowReserved
  setBarVisible s true

end ScreenDeck.Deck
