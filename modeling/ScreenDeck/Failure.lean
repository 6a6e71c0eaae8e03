/-! What can go wrong, as causes. The wording of each cause is `Failure.message`. -/

namespace ScreenDeck

inductive DispatchFailure where
  | stopped
  | workPanicked
deriving DecidableEq, Repr

namespace DispatchFailure

def message : DispatchFailure → String
  | stopped => "UI context has stopped"
  | workPanicked => "work panicked on the UI thread"

end DispatchFailure

/-- The host calls that a host may refuse. -/
inductive HostCall where
  | pageSize
  | resizePage
  | setPageCommandBar
  | setPageContent
  | pageContent
deriving DecidableEq, Repr

namespace HostCall

def name : HostCall → String
  | pageSize => "page_size"
  | resizePage => "resize_page"
  | setPageCommandBar => "set_page_command_bar"
  | setPageContent => "set_page_content"
  | pageContent => "page_content"

end HostCall

/-- A state in which an operation has no answer. -/
inductive InvalidState where
  | noActivePage
  | parentDropped
  | indexSpaceExhausted
  | refused (call : HostCall)
  | containerUnavailable
  | containerRefused
  | other (text : String)
deriving DecidableEq, Repr

namespace InvalidState

def message : InvalidState → String
  | noActivePage => "no active page"
  | parentDropped => "parent widget was dropped"
  | indexSpaceExhausted => "command bar index space exhausted"
  | refused call => call.name ++ " refused"
  | containerUnavailable => "stack unavailable"
  | containerRefused => "stack refused"
  | other text => text

end InvalidState

inductive SettingsFault where
  | zeroCapacity
  | extentNotPositive (shown : String)
  | malformed
  | other (text : String)
deriving DecidableEq, Repr

namespace SettingsFault

def message : SettingsFault → String
  | zeroCapacity => "ui_queue_capacity must be greater than zero"
  | extentNotPositive shown => "command_bar_extent must be positive, got " ++ shown
  | malformed => "malformed document"
  | other text => text

end SettingsFault

inductive Failure where
  | invalidState (cause : InvalidState)
  | dispatch (cause : DispatchFailure)
  | unknownProperty (name : String)
  | propertyNotReadable (name : String)
  | propertyNotWritable (name : String)
  | settings (cause : SettingsFault)
deriving DecidableEq, Repr

namespace Failure

def message : Failure → String
  | invalidState cause => "invalid state: " ++ cause.message
  | dispatch cause => "UI dispatch failed: " ++ cause.message
  | unknownProperty name => "unknown property '" ++ name ++ "'"
  | propertyNotReadable name => "property '" ++ name ++ "' cannot be read"
  | propertyNotWritable name => "property '" ++ name ++ "' cannot be written"
  | settings cause => "invalid configuration: " ++ cause.message

end Failure
end ScreenDeck
