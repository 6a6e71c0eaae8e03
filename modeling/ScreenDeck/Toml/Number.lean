import ScreenDeck.Binary.Format
import ScreenDeck.Toml.Lexical

/-! Numbers of a TOML document: 64-bit integers, and reals of 64 bits. -/

namespace ScreenDeck.Toml

open Binary

def inInteger64 (n : Int) : Bool := -0x8000000000000000 ≤ n && n < 0x8000000000000000

/-- Whether a minus sign stands in front. Either sign may. -/
def readSign : List Char → Bool × List Char
  | '+' :: r => (false, r)
  | '-' :: r => (true, r)
  | cs => (false, cs)

def readDecimal : Reader (List Char)
  | '0' :: r => some (['0'], r)
  | cs => someDigits isDigit cs

def readBased (base : Nat) (p : Char → Bool) (cs : List Char) : Option (Int × List Char) := do
  let (ds, r) ← someDigits p cs
  let n := numeral base ds
  guard (inInteger64 n)
  some (n, r)

def readInteger : Reader Int
  | '0' :: 'x' :: r => readBased 16 isHex r
  | '0' :: 'o' :: r => readBased 8 isOctal r
  | '0' :: 'b' :: r => readBased 2 isBinary r
  | cs => do
    let (negative, r) := readSign cs
    let (ds, r) ← readDecimal r
    let n : Int := if negative then -(numeral 10 ds) else numeral 10 ds
    guard (inInteger64 n)
    some (n, r)

def readFraction : Reader (List Char)
  | '.' :: r => someDigits isDigit r
  | cs => some ([], cs)

/-- The power of ten that an exponent gives, if one is there. -/
def readExponent : Reader Int
  | 'e' :: r | 'E' :: r => do
    let (negative, r) := readSign r
    let (ds, r) ← someDigits isDigit r
    some (if negative then -(numeral 10 ds) else numeral 10 ds, r)
  | cs => some (0, cs)

def continuesNumber : List Char → Bool
  | '.' :: _ | 'e' :: _ | 'E' :: _ => true
  | _ => false

/-- A real in digits, with a fraction, an exponent or both. Past the largest real it is refused,
but on the negative side it becomes infinite. -/
def readFinite (cs : List Char) : Option (Binary.Number × List Char) := do
  let (negative, r) := readSign cs
  let (whole, r) ← readDecimal r
  guard (continuesNumber r)
  let (fraction, r) ← readFraction r
  let (exponent, r) ← readExponent r
  let x := Format.double.roundDecimal negative (numeral 10 (whole ++ fraction))
    (exponent - (fraction.length : Int))
  guard (x ≠ .infinite false)
  some (x, r)

def readSpecial (cs : List Char) : Option (Binary.Number × List Char) :=
  let (negative, r) := readSign cs
  match r with
  | 'i' :: 'n' :: 'f' :: r => some (.infinite negative, r)
  | 'n' :: 'a' :: 'n' :: r => some (.nan, r)
  | _ => none

def readReal (cs : List Char) : Option (Binary.Number × List Char) :=
  readFinite cs <|> readSpecial cs

end ScreenDeck.Toml
