import ScreenDeck.Failure

/-! The properties of a screen that a host reads and writes by name. -/

namespace ScreenDeck

inductive Access where
  | writeOnly
  | readOnly
deriving DecidableEq

inductive Property where
  | title
  | removeOptionsMenu
  | isShown
deriving DecidableEq

namespace Property

def name : Property → String
  | title => "title"
  | removeOptionsMenu => "removeoptionsmenu"
  | isShown => "isShown"

def access : Property → Access
  | title | removeOptionsMenu => .writeOnly
  | isShown => .readOnly

def all : List Property := [title, removeOptionsMenu, isShown]

/-- Names are matched to the letter. -/
def ofName (text : String) : Except Failure Property :=
  match all.find? (·.name = text) with
  | some p => .ok p
  | none => .error (.unknownProperty text)

def checkReadable (p : Property) : Except Failure Property :=
  match p.access with
  | .readOnly => .ok p
  | .writeOnly => .error (.propertyNotReadable p.name)

def checkWritable (p : Property) : Except Failure Property :=
  match p.access with
  | .writeOnly => .ok p
  | .readOnly => .error (.propertyNotWritable p.name)

theorem ofName_name (p : Property) : ofName p.name = .ok p := by
  cases p <;> rfl

end Property

def truthText (b : Bool) : String := if b then "true" else "false"

end ScreenDeck
