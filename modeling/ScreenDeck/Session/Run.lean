import ScreenDeck.Dispatch.Launch
import ScreenDeck.Session.Step
import ScreenDeck.Session.View

/-! Sessions: steps performed in turn on one deck, and what is seen after each. -/

namespace ScreenDeck.Session

open Deck

/-- Looks a name up. Without such an object nothing happens. -/
def named {α : Type} (names : Names → List (String × α)) (name : String) (k : α → Do Reply) :
    Do Reply := do
  match (names (← Act.state).names).lookup name with
  | some a => k a
  | none => return .missing

def namedChild (child : ChildName) (k : Child → Do Reply) : Do Reply :=
  match child with
  | .widget name => named (·.widgets) name fun w => k (.widget w)
  | .screen name => named (·.screens) name fun s => k (.screen s)

def namedBar (bar : Option String) (k : Option (Ref .bar) → Do Reply) : Do Reply :=
  match bar with
  | some name => named (·.bars) name fun b => k (some b)
  | none => k none

def rename (f : Names → Names) : Do Unit :=
  Act.modifyState fun d => { d with names := f d.names }

def done (a : Do Unit) : Do Reply := do
  a
  return .nothing

def changeGrid {α : Type} (g : Ref .grid) (f : Grid → α × Grid) : Do α :=
  change fun d =>
    let (a, grid) := f (d.grids.get g)
    (a, d.modifyGrid g fun _ => grid)

def widgetView (d : Deck) (w : Ref .widget) : ViewId := (d.widgets.get w).view

def cellReply : Option GridCell → Reply := Reply.option fun c => .cell c.row c.column

def performOnScreen (s : Ref .screen) : ScreenStep → Do Reply
  | .title value => do
    setTitle s value
    return .text ((← Act.state).screens.get s).title
  | .setProperty name value => outcome (done (setProperty s name value))
  | .getProperty name => outcome do return .text (← getProperty s name)
  | .parent name => do
    let names := (← Act.state).names
    match names.containers.lookup name, names.panels.lookup name, names.screens.lookup name with
    | some p, _, _ => done (setParent s (some (.container p)))
    | none, some p, _ => done (setParent s (some (.panel p)))
    | none, none, some p => done (setParent s (some (.screen p)))
    | none, none, none => return .missing
  | .clearParent => done (setParent s none)
  | .identity => do
    let d ← Act.state
    return .identity (d.screens.get s).handle (d.viewOf (.screen s))
  | .debug => return .text ((← Act.state).screenText s)
  | .addChild child => namedChild child fun c => outcome do
    let tree := ((← Act.state).screens.get s).tree
    done (addChild tree c)
  | .removeChild handle => outcome do
    let tree := ((← Act.state).screens.get s).tree
    return .truth (← removeChild tree handle).isSome
  | .removeAt index => outcome do
    let tree := ((← Act.state).screens.get s).tree
    let found ← removeChildAt tree index
    let d ← Act.state
    return Reply.option (fun c => .number (d.handleOf c).raw.toInt) found
  | .cellOf widget => named (·.widgets) widget fun w => do
    let d ← Act.state
    return cellReply ((d.grids.get (d.screens.get s).grid).cellOf? (widgetView d w))
  | .present => outcome (done (showScreen s))
  | .transition kind => outcome (done (showWithTransition s kind))
  | .enable => outcome (done (enableBar s))
  | .visible value => outcome (done (setBarVisible s value))
  | .removeMenu => outcome (done (removeOptionsMenu s))
  | .isShown => outcome do return .truth (← isShown s)
  | .register item => outcome do return .number (← registerItem (← managerOf s) item).toInt
  | .indexOf item => do
    let manager := (← Act.state).managers.get (← managerOf s)
    return Reply.option (fun i => .number i.toInt) (manager.registry.indexOf? item)
  | .rotate raw => outcome do return .text (← rotate s (.ofRaw raw)).name
  | .dispose => done (dispose s)

/-- Adds to a reply what is seen of a part, unless the reply is that something is missing. -/
def withView (a : Do Reply) (view : Reply → Deck → Reply) : Do Reply := do
  match ← a with
  | .missing => return .missing
  | r => return view r (← Act.state)

def performOnGrid (g : Ref .grid) (step : GridStep) : Do Reply :=
  withView (match step with
    | .reserve extent => do return .truth (← changeGrid g (·.reserveRow extent))
    | .release => do return .truth (← changeGrid g (·.releaseReservedRow))
    | .pin => done (changeGrid g fun grid => ((), grid.pinLast))
    | .add widget => named (·.widgets) widget fun w => do
      let view := widgetView (← Act.state) w
      done (changeGrid g fun grid => ((), grid.addView view))
    | .remove widget => named (·.widgets) widget fun w => do
      let view := widgetView (← Act.state) w
      return .truth (← changeGrid g (·.removeView view))
    | .cell widget => named (·.widgets) widget fun w => do
      let d ← Act.state
      return cellReply ((d.grids.get g).cellOf? (widgetView d w)))
    fun r d => .onGrid r (d.grids.get g)

def performOnManager (m : Ref .manager) (step : ManagerStep) : Do Reply :=
  withView (match step with
    | .visible value => do return .truth (← setManagerVisible m value)
    | .register item times => do
      let (r, registry) := ((← Act.state).managers.get m).registry.registerTimes item times
      Act.modifyState fun d => d.modifyManager m fun x => { x with registry }
      return match r with
        | none => .nothing
        | some (.ok index) => .success (.number index.toInt)
        | some (.error f) => .failure f
    | .index item => do
      let manager := (← Act.state).managers.get m
      return Reply.option (fun i => .number i.toInt) (manager.registry.indexOf? item)
    | .reset => do return .number (barNumber (← resetManager m)))
    fun r d =>
      let manager := d.managers.get m
      .onManager r (barView d manager.bar) manager

def performOnTree (t : Ref .tree) (step : TreeStep) : Do Reply :=
  withView (match step with
    | .add child => namedChild child fun c => outcome (done (addChild t c))
    | .remove handle => outcome do return .truth (← removeChild t handle).isSome
    | .removeAt index => outcome do
      let found ← removeChildAt t index
      let d ← Act.state
      return Reply.option (fun c => .child (childView d c)) found
    | .debug => do return .text ((← Act.state).treeText t))
    fun r d => .onTree r ((d.trees.get t).children.map (childView d))

def performOnPresenter (p : Ref .presenter) (step : PresenterStep) : Do Reply :=
  withView (match step with
    | .present bar => namedBar bar fun b => outcome (done (present p b))
    | .transition bar kind => namedBar bar fun b => outcome (done (presentWithTransition p b kind))
    | .current => outcome do return .truth (← isCurrentContent p))
    fun r d =>
      let presenter := d.presenters.get p
      .onPresenter r presenter.generation (d.grids.get presenter.grid).view

def performOnSwitch (position : Nat) (s : Switch) : SwitchStep → Do Reply
  | .invoke => do
    Act.modifyState fun d => { d with pending := d.pending.eraseIdx position }
    outcome do return .truth (← invoke s)
  | .drop => done (Act.modifyState fun d => { d with pending := d.pending.eraseIdx position })
  | .query => do
    let d ← Act.state
    return .switch s.generation (d.isCurrent s) (d.switchText s)

def makeWidget (handle : Handle) (sharing : Option ViewId) (d : Deck) : Ref .widget × Deck :=
  let (view, d) := match sharing with
    | some view => (view, d)
    | none => d.allotView
  let (r, widgets) := d.widgets.add ⟨handle, view⟩
  (r, { d with widgets })

def nameWidget (name : String) (handle : Handle) (sharing : Option ViewId) : Do Reply := do
  let w ← change (makeWidget handle sharing)
  rename fun n => { n with widgets := Names.bind n.widgets name w }
  return .number (widgetView (← Act.state) w).number

def perform : Step → Do Reply
  | .widget name handle none => nameWidget name handle none
  | .widget name handle (some other) => named (·.widgets) other fun w => do
    nameWidget name handle (some (widgetView (← Act.state) w))
  | .container name handle mode => do
    let p ← change fun d =>
      let (p, containers) := d.containers.add { handle, mode }
      (p, { d with containers })
    done (Act.modifyState (nameContainer name p))
  | .panel name handle => do
    let p ← change fun d =>
      let (p, panels) := d.panels.add { handle }
      (p, { d with panels })
    done (Act.modifyState (namePanel name p))
  | .containerShows name shown => named (·.containers) name fun p =>
    done (Act.modifyState fun d =>
      { d with containers := d.containers.modify p fun x => { x with shown } })
  | .dropParent name => do return .truth (← change (dropParent name))
  | .newBar name => do
    let b ← change makeBar
    rename fun n => { n with bars := Names.bind n.bars name b }
    return .bar (barView (← Act.state) b)
  | .shutdown => do
    Act.shutdown
    return .truth (← Act.context).running
  | .dropEvents => done (Act.modifyState fun d => { d with outbox := none })
  | .servicesDebug => do
    return .text (Text.record "ScreenServices"
      [("ui", (← Act.context).debugText), ("config", (← Act.state).settings.debugText)] false)
  | .post orientation category => done (post category (Event.broadcast orientation))
  | .emit orientation handle => do
    match handle with
    | none => postBroadcast orientation
    | some h => postAddressed h orientation
    return .text (Text.record "EventEncoder" [] false)
  | .openPage => done (Act.modifyState openPage)
  | .closePage => do return Reply.option (fun p => .size p.size) (← change closePage)
  | .contentSize size => do
    Act.modifyState fun d => { d with contentSize := size }
    return .size (← Act.state).contentSize
  | .resize size => outcome (done (resizePage size))
  | .pageSize => outcome do return .size (← pageSize)
  | .pageBar => outcome do
    let bar ← pageBar
    let d ← Act.state
    return Reply.option (fun b => .bar (barView d b)) bar
  | .pageContent => outcome do
    let content ← pageContent
    let d ← Act.state
    return Reply.option (fun g => .number (d.grids.get g).view.number) content
  | .setPageBar bar => named (·.bars) bar fun b => outcome (done (setPageBar b))
  | .setPageContent grid => named (·.grids) grid fun g => outcome (done (setPageContent g))
  | .notify raw => done (notifyOrientation (.ofRaw raw))
  | .block value => done (Act.modifyState fun d => { d with orientation.blocked := value })
  | .fault call mode => done (Act.modifyState fun d =>
      { d with faults := fun c => if some c = call then mode else d.faults c })
  | .switch position step => do
    match (← Act.state).pending[position]? with
    | some s => performOnSwitch position s step
    | none => return .missing
  | .openScreen name handle => done (openScreen name handle)
  | .dropScreen name => do return .truth (← change (dropScreen name))
  | .onScreen name step => named (·.screens) name fun s => performOnScreen s step
  | .grid name => do
    let g ← change makeGrid
    rename fun n => { n with grids := Names.bind n.grids name g }
    return .number ((← Act.state).grids.get g).view.number
  | .onGrid name step => named (·.grids) name fun g => performOnGrid g step
  | .manager name => do
    let m ← change makeManager
    done (rename fun n => { n with managers := Names.bind n.managers name m })
  | .onManager name step => named (·.managers) name fun m => performOnManager m step
  | .tree name owner grid => named (·.grids) grid fun g => do
    let t ← change (makeTree owner g)
    done (Act.modifyState (nameTree name t))
  | .onTree name step => named (·.trees) name fun t => performOnTree t step
  | .presenter name grid => named (·.grids) grid fun g => do
    let p ← change (makePresenter g .host)
    done (rename fun n => { n with presenters := Names.bind n.presenters name p })
  | .onPresenter name step => named (·.presenters) name fun p => performOnPresenter p step
  | .tracker name handle => do
    let t ← change (makeTracker handle)
    done (Act.modifyState (nameTracker name t))
  | .trackerAttach name subscription => named (·.trackers) name fun t => do
    let s ← change (listen (.tracker t))
    done (Act.modifyState (nameSubscription subscription s))
  | .trackerHandle name raw => named (·.trackers) name fun t => outcome do
    return .text (← trackerHandle t (.ofRaw raw)).name
  | .trackerDrop name => do return .truth (← change (dropTracker name))
  | .subscriptionRelease name => named (·.subscriptions) name fun s => do
    return .released (← change (releaseNamed name s)) false
  | .subscriptionDrop name => do return .truth (← change (dropSubscription name))

/-- What is seen after a step. A step that was to be issued on the UI side may have been refused
before it began. -/
inductive Observation where
  | refused (d : DispatchFailure)
  | lost
  | seen (reply : Reply) (page : Option PageView) (listeners : Nat)
      (events : Option (List Posted)) (toggles : List Toggle) (transitions : List Int32)
      (notices : List Notice) (screen : Option (Option ScreenView))

def issue (via : Via) (step : Step) : Do (Except DispatchFailure Reply) := do
  match via with
  | .direct => return .ok (← guarded (perform step))
  | .thread => return .ok (← Act.onThread .helper (guarded (perform step)))
  | .ui =>
    match ← Act.attempt (Act.runSync (guarded (perform step))) with
    | .ok r => return .ok r
    | .error (.failed (.dispatch d)) => return .error d
    | .error _ => Act.hang

def takeNotices : Do (List Notice) := do
  let notices := (← get).notices
  modify fun s => { s with notices := [] }
  return notices

def observe (via : Via) (step : Step) : Do Observation := do
  match ← issue via step with
  | .error d => return .refused d
  | .ok reply =>
    let notices ← takeNotices
    let screen ← match step.subject with
      | none => pure none
      | some name =>
        match (← Act.state).names.screens.lookup name with
        | none => pure (some none)
        | some s => pure (some (some (← screenView s)))
    let d ← Act.state
    Act.modifyState fun d =>
      { d with outbox := d.outbox.map fun _ => [], toggles := [], transitions := [] }
    return .seen reply (pageView d) d.orientation.count d.outbox d.toggles d.transitions notices screen

structure Setup where
  /-- The document with the settings, if there is one. -/
  document : Option String := none
  mode : Mode := .inPlace
  contentSize : Size := ⟨.ofInt 480, .ofInt 800⟩
  withPage : Bool := true
  /-- The engine of the host, if the screens are to use it. -/
  engine : Option EngineMode := none

def Setup.settings (setup : Setup) : Except Failure Settings :=
  match setup.document with
  | some text => Settings.parse text
  | none => .ok {}

def Setup.start (setup : Setup) : Except Abort (Scene Deck) := do
  let settings ← setup.settings.mapError Abort.failed
  let context ← Context.launch setup.mode settings
  let deck : Deck := {
    settings
    contentSize := setup.contentSize
    screenEngine := if setup.engine.isSome then .host else .immediate
    engineMode := setup.engine.getD .immediate }
  return { context, state := if setup.withPage then deck.openPage else deck }

def observeAll : List (Via × Step) → Scene Deck → List Observation × Scene Deck
  | [], scene => ([], scene)
  | (via, step) :: steps, scene =>
    match observe via step scene with
    | (.ok o, scene) =>
      let (os, scene) := observeAll steps scene
      (o :: os, scene)
    | (.error _, scene) => ([.lost], scene)

/-- What is seen of a whole session: each step, and the named screens at the end. -/
def run (setup : Setup) (steps : List (Via × Step)) :
    Except Abort (List Observation × List (String × ScreenView)) := do
  let scene ← setup.start
  let (observations, scene) := observeAll steps scene
  let screens := scene.state.names.screens.filterMap fun (name, s) =>
    match screenView s scene with
    | (.ok view, _) => some (name, view)
    | (.error _, _) => none
  return (observations, screens)

end ScreenDeck.Session
