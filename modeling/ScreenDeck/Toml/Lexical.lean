/-! Characters of a TOML document and the pieces between its expressions. A reader takes what it
reads off the front of the text, or gives nothing. -/

namespace ScreenDeck.Toml

abbrev Reader (α : Type) := List Char → Option (α × List Char)

def isBlank (c : Char) : Bool := c = ' ' || c = '\t'

def skipBlanks (cs : List Char) : List Char := cs.dropWhile isBlank

/-- A line ends in a line feed, with or without a carriage return before it. -/
def newline? : List Char → Option (List Char)
  | '\n' :: r => some r
  | '\r' :: '\n' :: r => some r
  | _ => none

/-- A line also ends where the text does. -/
def lineEnd? : List Char → Option (List Char)
  | [] => some []
  | cs => newline? cs

/-- Any character but the control characters, of which only the tab is in. -/
def isPlain (c : Char) : Bool := c = '\t' || ' ' ≤ c && c ≠ '\x7f'

def skipComment : List Char → List Char
  | '#' :: r => r.dropWhile isPlain
  | cs => cs

/-- What may follow an expression on its line. -/
def lineRest? (cs : List Char) : Option (List Char) := lineEnd? (skipComment (skipBlanks cs))

def isDigit (c : Char) : Bool := '0' ≤ c && c ≤ '9'

def isOctal (c : Char) : Bool := '0' ≤ c && c ≤ '7'

def isBinary (c : Char) : Bool := c = '0' || c = '1'

def isHex (c : Char) : Bool := isDigit c || 'a' ≤ c && c ≤ 'f' || 'A' ≤ c && c ≤ 'F'

def isBareKey (c : Char) : Bool :=
  isDigit c || 'a' ≤ c && c ≤ 'z' || 'A' ≤ c && c ≤ 'Z' || c = '-' || c = '_'

def digitValue (c : Char) : Nat :=
  if isDigit c then c.toNat - '0'.toNat
  else if 'a' ≤ c then c.toNat - 'a'.toNat + 10
  else c.toNat - 'A'.toNat + 10

def numeral (base : Nat) (cs : List Char) : Nat :=
  cs.foldl (fun n c => n * base + digitValue c) 0

/-- Digits, where one underscore may stand between two of them. -/
def spacedDigits (p : Char → Bool) : List Char → List Char × List Char
  | '_' :: c :: r =>
    if p c then
      let (ds, rest) := spacedDigits p r
      (c :: ds, rest)
    else ([], '_' :: c :: r)
  | c :: r =>
    if p c then
      let (ds, rest) := spacedDigits p r
      (c :: ds, rest)
    else ([], c :: r)
  | [] => ([], [])

/-- Digits as above, of which the first is really there. -/
def someDigits (p : Char → Bool) : Reader (List Char)
  | c :: r =>
    if p c then
      let (ds, rest) := spacedDigits p r
      some (c :: ds, rest)
    else none
  | [] => none

def twoDigits : Reader Nat
  | a :: b :: r => if isDigit a && isDigit b then some (numeral 10 [a, b], r) else none
  | _ => none

/-- Blanks, comments and line ends, as between the items of an array. A comment there ends in a
line end. -/
def skipLayout : Nat → List Char → List Char
  | 0, cs => cs
  | fuel + 1, cs =>
    match skipBlanks cs with
    | '#' :: r =>
      match newline? (r.dropWhile isPlain) with
      | some rest => skipLayout fuel rest
      | none => '#' :: r
    | cs =>
      match newline? cs with
      | some rest => skipLayout fuel rest
      | none => cs

def layout (cs : List Char) : List Char := skipLayout cs.length cs

end ScreenDeck.Toml
