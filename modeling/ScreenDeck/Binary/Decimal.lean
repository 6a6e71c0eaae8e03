import ScreenDeck.Binary.Single

/-! Decimal text of 32-bit numbers: the fewest digits that read back as the same number, and of
those the nearest. Two layouts use them, a plain one and a detailed one. -/

namespace ScreenDeck

namespace Binary

/-- Positive digits and the power of ten of their last place. -/
structure Decimal where
  digits : Nat
  exponent : Int
deriving DecidableEq

/-- The reals that round to `mantissa` times two to the `exponent`, each bound as a quarter count
of the last place. The lower half is shorter where the place below is finer. -/
structure Interval where
  low : Nat
  value : Nat
  high : Nat
  closed : Bool
  exponent : Int
deriving DecidableEq

def Interval.around (f : Format) (mantissa : Nat) (exponent : Int) : Interval :=
  let finer := mantissa = twoTo (f.precision - 1) && f.minExponent < exponent
  { low := 4 * mantissa - (if finer then 1 else 2)
    value := 4 * mantissa
    high := 4 * mantissa + 2
    closed := mantissa % 2 = 0
    exponent := exponent - 2 }

/-- Both numbers times a common factor, so that the first counts units of `exponent` and the
second units of ten to the `place`. -/
def commonScale (exponent place : Int) : Nat × Nat :=
  let (n, d) := unscale 1 1 (-exponent)
  let (n', d') := if 0 ≤ place then (tenTo place.toNat, 1) else (1, tenTo (-place).toNat)
  (n * d', n' * d)

def Interval.contains (i : Interval) (unit grid point : Nat) : Bool :=
  if i.closed then i.low * unit ≤ point * grid && point * grid ≤ i.high * unit
  else i.low * unit < point * grid && point * grid < i.high * unit

/-- The nearer of the value's two neighbours on the grid of ten to the `place`, among those in
the interval. A tie goes up. -/
def Interval.onGrid (i : Interval) (place : Int) : Option Decimal :=
  let (unit, grid) := commonScale i.exponent place
  let value := i.value * unit
  let below := value / grid
  let above := below + 1
  let belowFits := below ≠ 0 && i.contains unit grid below
  let aboveFits := i.contains unit grid above
  let nearerAbove := above * grid - value ≤ value - below * grid
  if aboveFits && (nearerAbove || !belowFits) then some ⟨above, place⟩
  else if belowFits then some ⟨below, place⟩
  else none

/-- The place of the leading decimal digit of a positive count of units. -/
def Interval.leadingPlace (i : Interval) : Int :=
  let (unit, grid) := commonScale i.exponent 0
  let value := i.value * unit
  if grid ≤ value then ((Nat.toDigits 10 (value / grid)).length : Int) - 1
  else
    let up := (Nat.toDigits 10 (grid / value)).length
    if grid ≤ value * tenTo (up - 1) then 1 - (up : Int) else -(up : Int)

/-- Tries one digit, then two, up to the given count. -/
def Interval.fewest (i : Interval) (leading : Int) : Nat → Nat → Option Decimal
  | _, 0 => none
  | used, left + 1 =>
    match i.onGrid (leading - (used : Int)) with
    | some d => some d
    | none => i.fewest leading (used + 1) left

def Decimal.trimmed (d : Decimal) : Nat → Decimal
  | 0 => d
  | n + 1 =>
    if d.digits ≠ 0 && d.digits % 10 = 0 then trimmed ⟨d.digits / 10, d.exponent + 1⟩ n else d

/-- The shortest decimal that rounds to the given member of the format. Seventeen digits suffice
for every format here. -/
def shortest (f : Format) (mantissa : Nat) (exponent : Int) : Decimal :=
  let i := Interval.around f mantissa exponent
  match i.fewest i.leadingPlace 0 17 with
  | some d => d.trimmed 20
  | none => ⟨mantissa, exponent⟩

def Decimal.digitChars (d : Decimal) : List Char := Nat.toDigits 10 d.digits

/-- Digits and point without an exponent. The fraction is left out when it is empty. -/
def Decimal.positional (d : Decimal) : String :=
  let cs := d.digitChars
  let point : Int := (cs.length : Int) + d.exponent
  if 0 ≤ d.exponent then String.ofList (cs ++ List.replicate d.exponent.toNat '0')
  else if 0 < point then
    String.ofList (cs.take point.toNat ++ '.' :: cs.drop point.toNat)
  else String.ofList ('0' :: '.' :: List.replicate (-point).toNat '0' ++ cs)

/-- One digit before the point, and the exponent always written. -/
def Decimal.scientific (d : Decimal) : String :=
  let cs := d.digitChars
  let head := cs.take 1
  let tail := cs.drop 1
  let fraction := if tail.isEmpty then [] else '.' :: tail
  let power : Int := ((cs.length : Int) - 1) + d.exponent
  String.ofList (head ++ fraction) ++ "e" ++ toString power

end Binary

namespace Single

open Binary

def signed (x : Single) (text : String) : String :=
  if x.negative then "-" ++ text else text

/-- The plain layout never uses an exponent, and leaves out an empty fraction. -/
def plainText (x : Single) : String :=
  match x.toNumber with
  | .nan => "NaN"
  | .infinite _ => x.signed "inf"
  | .finite _ m q => x.signed (if m = 0 then "0" else (shortest .single m q).positional)

/-- The detailed layout always shows a fraction or an exponent. The exponent appears from ten to
the sixteenth upwards and below a ten thousandth. -/
def detailedText (x : Single) : String :=
  match x.toNumber with
  | .nan => "NaN"
  | .infinite _ => x.signed "inf"
  | .finite _ m q =>
    if m = 0 then x.signed "0.0"
    else
      let d := shortest .single m q
      let large := (ofDecimal 1 16).magnitude ≤ x.magnitude
      let small := x.magnitude < (ofDecimal 1 (-4)).magnitude
      x.signed (if large || small then d.scientific
        else if 0 ≤ d.exponent then d.positional ++ ".0" else d.positional)

example : (ofInt 78).plainText = "78" := by decide +kernel
example : (⟨1⟩ : Single).detailedText = "1e-45" := by decide +kernel
example : (⟨0x80000000⟩ : Single).plainText = "-0" := by decide +kernel
example : (⟨0x3dcccccd⟩ : Single).plainText = "0.1" := by decide +kernel
example : (ofInt 78).detailedText = "78.0" := by decide +kernel

end Single
end ScreenDeck
