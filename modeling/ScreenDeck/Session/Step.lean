import ScreenDeck.Failure
import ScreenDeck.Host
import ScreenDeck.Orientation

/-! Steps of a session. They name objects, and say what is done with them. -/

namespace ScreenDeck.Session

inductive ChildName where
  | widget (name : String)
  | screen (name : String)

inductive SwitchStep where
  | invoke
  | drop
  | query

inductive ScreenStep where
  | title (value : String)
  | setProperty (name value : String)
  | getProperty (name : String)
  | parent (name : String)
  | clearParent
  | identity
  | debug
  | addChild (child : ChildName)
  | removeChild (handle : Handle)
  | removeAt (index : Int32)
  | cellOf (widget : String)
  | present
  | transition (kind : Int32)
  | enable
  | visible (value : Bool)
  | removeMenu
  | isShown
  | register (item : Handle)
  | indexOf (item : Handle)
  | rotate (raw : Int32)
  | dispose

inductive GridStep where
  | reserve (extent : Single)
  | release
  | pin
  | add (widget : String)
  | remove (widget : String)
  | cell (widget : String)

inductive ManagerStep where
  | visible (value : Bool)
  | register (item : Handle) (times : Nat)
  | index (item : Handle)
  | reset

inductive TreeStep where
  | add (child : ChildName)
  | remove (handle : Handle)
  | removeAt (index : Int32)
  | debug

inductive PresenterStep where
  | present (bar : Option String)
  | transition (bar : Option String) (kind : Int32)
  | current

inductive Step where
  | widget (name : String) (handle : Handle) (sharing : Option String)
  | container (name : String) (handle : Handle) (mode : ContainerMode)
  | panel (name : String) (handle : Handle)
  | containerShows (name : String) (shown : Option Handle)
  | dropParent (name : String)
  | newBar (name : String)
  | shutdown
  | dropEvents
  | servicesDebug
  | post (orientation : ScreenOrientation) (category : Option Int32)
  | emit (orientation : ScreenOrientation) (handle : Option Handle)
  | openPage
  | closePage
  | contentSize (size : Size)
  | resize (size : Size)
  | pageSize
  | pageBar
  | pageContent
  | setPageBar (bar : String)
  | setPageContent (grid : String)
  | notify (raw : Int32)
  | block (value : Bool)
  /-- Calls that are never refused have no fault to set. -/
  | fault (call : Option HostCall) (mode : FaultMode)
  | switch (position : Nat) (step : SwitchStep)
  | openScreen (name : String) (handle : Handle)
  | dropScreen (name : String)
  | onScreen (name : String) (step : ScreenStep)
  | grid (name : String)
  | onGrid (name : String) (step : GridStep)
  | manager (name : String)
  | onManager (name : String) (step : ManagerStep)
  | tree (name : String) (owner : Handle) (grid : String)
  | onTree (name : String) (step : TreeStep)
  | presenter (name : String) (grid : String)
  | onPresenter (name : String) (step : PresenterStep)
  | tracker (name : String) (handle : Handle)
  | trackerAttach (name : String) (subscription : String)
  | trackerHandle (name : String) (raw : Int32)
  | trackerDrop (name : String)
  | subscriptionRelease (name : String)
  | subscriptionDrop (name : String)

def Step.subject : Step → Option String
  | .openScreen name _ | .dropScreen name | .onScreen name _ => some name
  | _ => none

/-- How a step is issued: where the caller is, on the UI side, or from a thread of its own. -/
inductive Via where
  | direct
  | ui
  | thread
deriving DecidableEq

end ScreenDeck.Session
