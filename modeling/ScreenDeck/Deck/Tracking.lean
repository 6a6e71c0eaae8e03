import ScreenDeck.Deck.Page

/-! Orientation changes: what a tracker does with one, and how the frame spreads it. -/

namespace ScreenDeck.Deck

/-- Lays the page out anew for a recognised orientation, and then posts two records. Without a
page nothing happens. -/
def handleOrientation (handle : Handle) (device : DeviceOrientation) : Do ScreenOrientation := do
  discard pageSize
  match device.group with
  | some group =>
    let size := group.pageSize (← Act.state).contentSize
    Act.runSync (resizePage size)
  | none => Act.note .unrecognizedOrientation
  let o := ScreenOrientation.ofDevice device
  Act.note .orientationChanged
  postBroadcast o
  postAddressed handle o
  return o

def trackerHandle (t : Ref .tracker) (device : DeviceOrientation) : Do ScreenOrientation := do
  handleOrientation ((← Act.state).trackers.get t).handle device

def listen (l : Listener) (d : Deck) : Subscription × Deck :=
  let (key, orientation) := d.orientation.connect l
  (⟨key, true⟩, { d with orientation })

/-- Releases a subscription to the orientation of the device. The flag tells whether that
disconnected a listener. -/
def release (s : Subscription) (d : Deck) : Bool × Deck :=
  if s.active then
    let (removed, orientation) := d.orientation.disconnect s.key
    (removed, { d with orientation })
  else (false, d)

/-- Releases the subscription of a screen, the first time only. -/
def dispose (s : Ref .screen) : Do Unit := do
  let d ← Act.state
  let screen := d.screens.get s
  unless screen.disposed do
    discard (change (release screen.subscription))
    Act.modifyState fun d => d.modifyScreen s fun screen =>
      { screen with disposed := true, subscription.active := false }
    Act.note .screenDisposed

/-- What one listener does. A tracker that is gone does nothing, and its failures go no further
than a notice. -/
def receive (device : DeviceOrientation) : Listener → Do Unit
  | .tracker t => do
    if ((← Act.state).trackers.get t).alive then
      match ← Act.attempt (trackerHandle t device) with
      | .error (.failed _) => Act.note .orientationNotApplied
      | r => discard (Act.settle r)
  | .disposer s => dispose s

/-- Tells all who listen when the notification starts. -/
def notifyOrientation (device : DeviceOrientation) : Do Unit := do
  (← Act.state).orientation.audience.forM (receive device)

end ScreenDeck.Deck
