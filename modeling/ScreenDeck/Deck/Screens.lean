import ScreenDeck.Deck.Children
import ScreenDeck.Deck.CommandBars
import ScreenDeck.Property

/-! What a host does with screens: making them, showing them, asking them, and reading and writing
their properties. -/

namespace ScreenDeck.Deck

def openScreen (name : String) (handle : Handle) : Do Unit := do
  let s ← change (makeScreen handle)
  Act.note .screenCreated
  Act.modifyState fun d => d.nameScreen name s

def setTitle (s : Ref .screen) (title : String) : Do Unit :=
  Act.modifyState fun d => d.modifyScreen s fun x => { x with title }

def setParent (s : Ref .screen) (p : Option Parent) : Do Unit :=
  Act.modifyState fun d => d.modifyScreen s fun x => { x with parent := p }

def showWithTransition (s : Ref .screen) (kind : Int32) : Do Unit := do
  let d ← Act.state
  presentWithTransition (d.screens.get s).presenter (d.visibleBar s) kind
  Act.note .transitionRequested

/-- A screen without a parent shows when the page has its content. A container knows which of its
children it shows, and other parents show none. -/
def isShown (s : Ref .screen) : Do Bool := do
  let p ← parent s
  let d ← Act.state
  match p with
  | none => isCurrentContent (d.screens.get s).presenter
  | some (.container k) =>
    let container := d.containers.get k
    if container.mode = .refuse then Act.fail (.invalidState .containerUnavailable)
    return container.shown = some (d.screens.get s).handle
  | some (.panel _) => return false
  | some (.screen _) => return false

def rotate (s : Ref .screen) (device : DeviceOrientation) : Do ScreenOrientation := do
  trackerHandle ((← Act.state).screens.get s).tracker device

def setProperty (s : Ref .screen) (name value : String) : Do Unit := do
  match Property.ofName name with
  | .error f => Act.fail f
  | .ok .title => setTitle s value
  | .ok .removeOptionsMenu => removeOptionsMenu s
  | .ok p =>
    match p.checkWritable with
    | .error f => Act.fail f
    | .ok _ => pure ()

def getProperty (s : Ref .screen) (name : String) : Do String := do
  match Property.ofName name with
  | .error f => Act.fail f
  | .ok .isShown => return truthText (← isShown s)
  | .ok p =>
    match p.checkReadable with
    | .error f => Act.fail f
    | .ok _ => return ""

def screenText (d : Deck) (s : Ref .screen) : String :=
  let screen := d.screens.get s
  Text.record "Screen"
    [("handle", "WidgetHandle(" ++ toString screen.handle.raw.toInt ++ ")"),
     ("title", Text.quoted screen.title),
     ("command_bar_visible", toString (d.barVisible s)),
     ("child_count", toString (d.trees.get screen.tree).children.length),
     ("disposed", toString screen.disposed)] false

end ScreenDeck.Deck
