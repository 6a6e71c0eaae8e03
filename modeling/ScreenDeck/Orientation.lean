import ScreenDeck.Size

/-! Orientations: what the device reports, the group that decides how a page is laid out, and the
normalized orientation with its wire code. -/

namespace ScreenDeck

inductive DeviceOrientation where
  | portrait
  | portraitUp
  | portraitDown
  | landscape
  | landscapeLeft
  | landscapeRight
  | other (raw : Int32)
deriving DecidableEq

inductive OrientationGroup where
  | portrait
  | landscape
deriving DecidableEq

/-- A page has the content's extents, swapped in landscape. -/
def OrientationGroup.pageSize (g : OrientationGroup) (content : Size) : Size :=
  match g with
  | portrait => content
  | landscape => content.transposed

namespace DeviceOrientation

def ofRaw (raw : Int32) : DeviceOrientation :=
  if raw = 1 then portrait
  else if raw = 2 then landscape
  else if raw = 5 then portraitUp
  else if raw = 9 then portraitDown
  else if raw = 18 then landscapeLeft
  else if raw = 34 then landscapeRight
  else other raw

def raw : DeviceOrientation → Int32
  | portrait => 1
  | landscape => 2
  | portraitUp => 5
  | portraitDown => 9
  | landscapeLeft => 18
  | landscapeRight => 34
  | other raw => raw

def group : DeviceOrientation → Option OrientationGroup
  | landscape | landscapeLeft | landscapeRight => some .landscape
  | portrait | portraitUp | portraitDown => some .portrait
  | other _ => none

def text : DeviceOrientation → String
  | portrait => "Portrait"
  | portraitUp => "PortraitUp"
  | portraitDown => "PortraitDown"
  | landscape => "Landscape"
  | landscapeLeft => "LandscapeLeft"
  | landscapeRight => "LandscapeRight"
  | other raw => "Other(" ++ toString raw.toInt ++ ")"

theorem raw_ofRaw (raw : Int32) : (ofRaw raw).raw = raw := by
  unfold ofRaw
  repeat' split
  all_goals simp_all [DeviceOrientation.raw]

end DeviceOrientation

inductive ScreenOrientation where
  | portraitUp
  | portraitUpsideDown
  | portrait
  | landscapeLeft
  | landscapeRight
  | landscape
deriving DecidableEq, Inhabited

namespace ScreenOrientation

/-- An unrecognised device orientation counts as upright. -/
def ofDevice : DeviceOrientation → ScreenOrientation
  | .landscape => landscape
  | .landscapeLeft => landscapeLeft
  | .landscapeRight => landscapeRight
  | .portrait => portrait
  | .portraitDown => portraitUpsideDown
  | .portraitUp | .other _ => portraitUp

def code : ScreenOrientation → Int32
  | portraitUp => 1
  | portraitUpsideDown => 2
  | portrait => 3
  | landscapeLeft => 4
  | landscapeRight => 8
  | landscape => 12

def name : ScreenOrientation → String
  | portraitUp => "PortraitUp"
  | portraitUpsideDown => "PortraitUpsideDown"
  | portrait => "Portrait"
  | landscapeLeft => "LandscapeLeft"
  | landscapeRight => "LandscapeRight"
  | landscape => "Landscape"

def all : List ScreenOrientation :=
  [portraitUp, portraitUpsideDown, portrait, landscapeLeft, landscapeRight, landscape]

def ofName? (text : String) : Option ScreenOrientation := all.find? (·.name = text)

theorem code_injective {a b : ScreenOrientation} (h : a.code = b.code) : a = b := by
  cases a <;> cases b <;> first | rfl | simp [code] at h

end ScreenOrientation
end ScreenDeck
