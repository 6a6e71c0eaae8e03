import ScreenDeck.Toml.Lexical

/-! Dates and times of a TOML document. They are checked and passed over. -/

namespace ScreenDeck.Toml

def isLeapYear (year : Nat) : Bool := year % 4 = 0 && (year % 100 ≠ 0 || year % 400 = 0)

def daysInMonth (year month : Nat) : Nat :=
  if month = 2 then if isLeapYear year then 29 else 28
  else if month ∈ [4, 6, 9, 11] then 30
  else 31

def readDate (cs : List Char) : Option (Unit × List Char) := do
  let (century, r) ← twoDigits cs
  let (decade, r) ← twoDigits r
  let '-' :: r := r | none
  let (month, r) ← twoDigits r
  let '-' :: r := r | none
  let (day, r) ← twoDigits r
  guard (1 ≤ month && month ≤ 12)
  guard (1 ≤ day && day ≤ daysInMonth (100 * century + decade) month)
  some ((), r)

def skipFraction : List Char → List Char
  | '.' :: c :: r => if isDigit c then r.dropWhile isDigit else '.' :: c :: r
  | cs => cs

/-- The sixtieth second of a minute is allowed for leap seconds. -/
def readTime (cs : List Char) : Option (Unit × List Char) := do
  let (hour, r) ← twoDigits cs
  let ':' :: r := r | none
  let (minute, r) ← twoDigits r
  let ':' :: r := r | none
  let (second, r) ← twoDigits r
  guard (hour ≤ 23 && minute ≤ 59 && second ≤ 60)
  some ((), skipFraction r)

/-- Skips an offset from universal time, if one is there. -/
def skipOffset : List Char → Option (List Char)
  | 'Z' :: r | 'z' :: r => some r
  | '+' :: r | '-' :: r => do
    let (hour, r) ← twoDigits r
    let ':' :: r := r | none
    let (minute, r) ← twoDigits r
    guard (hour ≤ 23 && minute ≤ 59)
    some r
  | cs => some cs

/-- A date, a time of day, or both with an offset perhaps. -/
def readMoment (cs : List Char) : Option (Unit × List Char) :=
  match readDate cs with
  | none => readTime cs
  | some (_, rest) =>
    match rest with
    | 'T' :: r | 't' :: r | ' ' :: r =>
      match readTime r with
      | none => some ((), rest)
      | some (_, r) => (skipOffset r).map ((), ·)
    | _ => some ((), rest)

end ScreenDeck.Toml
