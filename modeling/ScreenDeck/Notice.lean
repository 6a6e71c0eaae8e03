/-! Notices: what is worth telling an operator, with the part of the system it concerns. -/

namespace ScreenDeck

inductive Level where
  | debug
  | warn
deriving DecidableEq

def Level.text : Level → String
  | debug => "DEBUG"
  | warn => "WARN"

inductive Area where
  | dispatch
  | screen
  | orientation
  | commandBar
  | presenter
  | event
deriving DecidableEq

def Area.text : Area → String
  | dispatch => "nativeui_bridge_core::dispatch"
  | screen => "nativeui_bridge::screen"
  | orientation => "nativeui_bridge::orientation"
  | commandBar => "nativeui_bridge::command_bar"
  | presenter => "nativeui_bridge::presenter"
  | event => "nativeui_bridge::event"

inductive Notice where
  | contextStarted
  | contextShuttingDown
  | workPanicked
  | screenCreated
  | screenShown
  | transitionRequested
  | screenDisposed
  | manyChildren
  | unrecognizedOrientation
  | orientationChanged
  | orientationNotApplied
  | barVisibilityChanged
  | barReset
  | rowReserved
  | optionsMenuRemoved
  | screenPresented
  | transitionStarted
  | staleSwitch
  | switchFailed
  | eventDiscarded
deriving DecidableEq

namespace Notice

def level : Notice → Level
  | workPanicked | manyChildren | unrecognizedOrientation | orientationNotApplied
  | staleSwitch | switchFailed | eventDiscarded => .warn
  | _ => .debug

def area : Notice → Area
  | contextStarted | contextShuttingDown | workPanicked => .dispatch
  | screenCreated | screenShown | transitionRequested | screenDisposed | manyChildren => .screen
  | unrecognizedOrientation | orientationChanged | orientationNotApplied => .orientation
  | barVisibilityChanged | barReset | rowReserved | optionsMenuRemoved => .commandBar
  | screenPresented | transitionStarted | staleSwitch | switchFailed => .presenter
  | eventDiscarded => .event

def text : Notice → String
  | contextStarted => "UI context started"
  | contextShuttingDown => "UI context shutting down"
  | workPanicked => "UI work panicked"
  | screenCreated => "screen created"
  | screenShown => "screen shown"
  | transitionRequested => "screen transition requested"
  | screenDisposed => "screen disposed"
  | manyChildren => "screen has more than one child, only the last is visible"
  | unrecognizedOrientation => "unrecognized device orientation, page left as is"
  | orientationChanged => "orientation changed"
  | orientationNotApplied => "orientation change not applied"
  | barVisibilityChanged => "command bar visibility changed"
  | barReset => "command bar reset"
  | rowReserved => "command bar row reserved"
  | optionsMenuRemoved => "options menu removed"
  | screenPresented => "screen presented"
  | transitionStarted => "screen transition started"
  | staleSwitch => "stale content switch ignored"
  | switchFailed => "content switch failed"
  | eventDiscarded => "event receiver dropped, discarding event"

end Notice
end ScreenDeck
