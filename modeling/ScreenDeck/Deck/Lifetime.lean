import ScreenDeck.Deck.Tracking

/-! How long screens live. A screen lives as long as a name or a list of children holds it. When
the last hold goes, the screen lets go of its own children, one after the other, and then stops
listening. Screens that hold each other in a ring live on. -/

namespace ScreenDeck.Deck

/-- Makes a screen with all its parts. It listens from the start. -/
def makeScreen (handle : Handle) (d : Deck) : Ref .screen × Deck :=
  let (grid, d) := d.makeGrid
  let (tracker, d) := d.makeTracker handle
  let (subscription, d) := d.listen (.tracker tracker)
  let (tree, d) := d.makeTree handle grid
  let (presenter, d) := d.makePresenter grid d.screenEngine
  let (manager, d) := d.makeManager
  let (r, screens) := d.screens.add { handle, grid, tree, presenter, manager, tracker, subscription }
  (r, { d with screens })

def isHeld (d : Deck) (s : Ref .screen) : Bool :=
  d.names.screens.any (·.2 = s) || d.trees.items.any fun t => t.children.contains (.screen s)

/-- A living screen that nothing holds, nor a reference that is still to be let go. -/
def isOrphan (d : Deck) (s : Ref .screen) (pending : List Child) : Bool :=
  (d.screens.get s).alive && !d.isHeld s && !pending.contains (.screen s)

/-- Ends a screen: its tracker goes with it, and its children are no longer listed. -/
def bury (d : Deck) (s : Ref .screen) : Deck :=
  let screen := d.screens.get s
  ((d.modifyScreen s fun x => { x with alive := false }).modifyTracker screen.tracker
    fun x => { x with alive := false }).modifyTree screen.tree fun x => { x with children := [] }

def letGoWith (one : Ref .screen → List Child → Deck → Deck) :
    List Child → List Child → Deck → Deck
  | [], _, d => d
  | .widget _ :: rest, pending, d => letGoWith one rest pending d
  | .screen s :: rest, pending, d => letGoWith one rest pending (one s (rest ++ pending) d)

/-- Lets go of one reference to a screen. At most `depth` screens end within one another. -/
def letGoScreen : Nat → Ref .screen → List Child → Deck → Deck
  | 0, _, _, d => d
  | depth + 1, s, pending, d =>
    if d.isOrphan s pending then
      let screen := d.screens.get s
      let children := (d.trees.get screen.tree).children
      let d := letGoWith (letGoScreen depth) children pending (d.bury s)
      (d.release screen.subscription).2
    else d

/-- Lets go of references in turn. No more screens can end than there are. -/
def letGo (cs : List Child) (d : Deck) : Deck := letGoWith (letGoScreen d.screens.size) cs [] d

/-- Gives a screen a name. What had the name before is let go. -/
def nameScreen (name : String) (s : Ref .screen) (d : Deck) : Deck :=
  let old := d.names.screens.lookup name
  let d := { d with names.screens := Names.bind d.names.screens name s }
  match old with
  | some o => d.letGo [.screen o]
  | none => d

def dropScreen (name : String) (d : Deck) : Bool × Deck :=
  match d.names.screens.lookup name with
  | some s => (true, { d with names.screens := Names.unbind d.names.screens name }.letGo [.screen s])
  | none => (false, d)

/-- Gives a tree a name. What had the name before lets go of its children. -/
def nameTree (name : String) (t : Ref .tree) (d : Deck) : Deck :=
  let old := d.names.trees.lookup name
  let d := { d with names.trees := Names.bind d.names.trees name t }
  match old with
  | some o =>
    let children := (d.trees.get o).children
    (d.modifyTree o fun x => { x with children := [] }).letGo children
  | none => d

def endTracker (t : Ref .tracker) (d : Deck) : Deck :=
  d.modifyTracker t fun x => { x with alive := false }

def nameTracker (name : String) (t : Ref .tracker) (d : Deck) : Deck :=
  let old := d.names.trackers.lookup name
  let d := { d with names.trackers := Names.bind d.names.trackers name t }
  match old with
  | some o => d.endTracker o
  | none => d

def dropTracker (name : String) (d : Deck) : Bool × Deck :=
  match d.names.trackers.lookup name with
  | some t => (true, { d with names.trackers := Names.unbind d.names.trackers name }.endTracker t)
  | none => (false, d)

def nameSubscription (name : String) (s : Subscription) (d : Deck) : Deck :=
  let old := d.names.subscriptions.lookup name
  let d := { d with names.subscriptions := Names.bind d.names.subscriptions name s }
  match old with
  | some o => (d.release o).2
  | none => d

def dropSubscription (name : String) (d : Deck) : Bool × Deck :=
  match d.names.subscriptions.lookup name with
  | some s =>
    let d := { d with names.subscriptions := Names.unbind d.names.subscriptions name }
    (true, (d.release s).2)
  | none => (false, d)

/-- Releases a named subscription, and tells whether that disconnected a listener. The name stays
with the spent subscription. -/
def releaseNamed (name : String) (s : Subscription) (d : Deck) : Bool × Deck :=
  let (removed, d) := d.release s
  let spent := { s with active := false }
  (removed, { d with names.subscriptions := Names.bind d.names.subscriptions name spent })

def nameContainer (name : String) (p : Ref .container) (d : Deck) : Deck :=
  let old := d.names.containers.lookup name
  let d := { d with names.containers := Names.bind d.names.containers name p }
  match old with
  | some o => { d with containers := d.containers.modify o fun x => { x with alive := false } }
  | none => d

def namePanel (name : String) (p : Ref .panel) (d : Deck) : Deck :=
  let old := d.names.panels.lookup name
  let d := { d with names.panels := Names.bind d.names.panels name p }
  match old with
  | some o => { d with panels := d.panels.modify o fun x => { x with alive := false } }
  | none => d

def dropParent (name : String) (d : Deck) : Bool × Deck :=
  let container := d.names.containers.lookup name
  let panel := d.names.panels.lookup name
  let containers := match container with
    | some p => d.containers.modify p fun x => { x with alive := false }
    | none => d.containers
  let panels := match panel with
    | some p => d.panels.modify p fun x => { x with alive := false }
    | none => d.panels
  let names := { d.names with
    containers := Names.unbind d.names.containers name
    panels := Names.unbind d.names.panels name }
  (container.isSome || panel.isSome, { d with containers, panels, names })

end ScreenDeck.Deck
