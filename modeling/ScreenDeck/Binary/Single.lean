import ScreenDeck.Binary.Format

/-! Numbers of 32 bits, held as their bits. Arithmetic never happens on them here: they are
carried, compared, tested for sign, and printed. -/

namespace ScreenDeck

structure Single where
  bits : UInt32
deriving DecidableEq, Inhabited

namespace Single

open Binary

def negative (x : Single) : Bool := 0x80000000 ≤ x.bits

/-- The bits without the sign. Among numbers that are not NaN they grow with the magnitude. -/
def magnitude (x : Single) : Nat := x.bits.toNat % 0x80000000

def isNaN (x : Single) : Bool := 0x7f800000 < x.magnitude

def isInfinite (x : Single) : Bool := x.magnitude = 0x7f800000

def isZero (x : Single) : Bool := x.magnitude = 0

/-- Above zero, hence not NaN. Infinity is above zero. -/
def isPositive (x : Single) : Bool := !x.isNaN && !x.isZero && !x.negative

/-- Numeric equality: NaN differs from itself, and the two zeros are equal. -/
def sameNumber (x y : Single) : Bool :=
  !x.isNaN && !y.isNaN && (x.bits == y.bits || x.isZero && y.isZero)

def toNumber (x : Single) : Number :=
  let exponent := x.magnitude / 0x800000
  let fraction := x.magnitude % 0x800000
  if x.isNaN then .nan
  else if x.isInfinite then .infinite x.negative
  else if exponent = 0 then .finite x.negative fraction Format.single.minExponent
  else .finite x.negative (0x800000 + fraction) (Format.single.minExponent + (exponent - 1 : Nat))

def withSign (negative : Bool) (magnitude : Nat) : Single :=
  ⟨UInt32.ofNat (if negative then 0x80000000 + magnitude else magnitude)⟩

def ofNumber (r : Number) : Single :=
  match Format.single.round r with
  | .nan => ⟨0x7fc00000⟩
  | .infinite negative => withSign negative 0x7f800000
  | .finite negative m q =>
    if m < 0x800000 then withSign negative m
    else withSign negative ((q - Format.single.minExponent + 1).toNat * 0x800000 + (m - 0x800000))

/-- The 32-bit number nearest to a whole number, a tie to the even mantissa. -/
def ofInt (n : Int) : Single := ofNumber (Format.single.ofInt n)

def ofDecimal (digits : Nat) (exponent : Int) : Single :=
  ofNumber (Format.single.roundDecimal false digits exponent)

def zero : Single := ⟨0⟩

def one : Single := ⟨0x3f800000⟩

theorem not_isNaN_of_isPositive {x : Single} (h : x.isPositive) : x.isNaN = false := by
  simp only [isPositive, Bool.and_eq_true, Bool.not_eq_true'] at h
  exact h.1.1

example : ofInt 78 = ⟨0x429c0000⟩ := by decide +kernel
example : ofInt 16777217 = ⟨0x4b800000⟩ := by decide +kernel
example : ofDecimal 1 (-1) = ⟨0x3dcccccd⟩ := by decide +kernel
example : ofDecimal 1 (-45) = ⟨1⟩ := by decide +kernel
example : one = ofInt 1 := by decide +kernel

end Single
end ScreenDeck
