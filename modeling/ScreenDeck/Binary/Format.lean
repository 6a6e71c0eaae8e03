/-! Binary floating-point formats and rounding into them. A finite number is a whole mantissa
times a power of two. Rounding goes to the nearest member of the format, a tie to the even
mantissa. -/

namespace ScreenDeck.Binary

inductive Number where
  | nan
  | infinite (negative : Bool)
  | finite (negative : Bool) (mantissa : Nat) (exponent : Int)
deriving DecidableEq

def twoTo (n : Nat) : Nat := Nat.pow 2 n

def tenTo (n : Nat) : Nat := Nat.pow 10 n

/-- The members of a format are the mantissas below two to the `precision`, scaled by an
exponent of the given range. -/
structure Format where
  precision : Nat
  minExponent : Int
  maxExponent : Int
deriving DecidableEq

namespace Format

def single : Format := ⟨24, -149, 104⟩

def double : Format := ⟨53, -1074, 971⟩

end Format

/-- The whole number nearest to a quotient, a tie to the even one. -/
def divToEven (num den : Nat) : Nat :=
  let q := num / den
  let twice := 2 * (num % den)
  if twice < den then q
  else if den < twice then q + 1
  else q + q % 2

/-- The quotient divided by two to the `exponent`, as a quotient. -/
def unscale (num den : Nat) (exponent : Int) : Nat × Nat :=
  if 0 ≤ exponent then (num, den * twoTo exponent.toNat)
  else (num * twoTo (-exponent).toNat, den)

/-- The exponent of the leading binary digit of a positive quotient. -/
def leadingExponent (num den : Nat) : Int :=
  let guess : Int := (num.log2 : Int) - (den.log2 : Int)
  let (n, d) := unscale num den guess
  if d ≤ n then guess else guess - 1

/-- Rounds the quotient of two whole numbers, the lower one positive. Past the largest member of
the format the result is infinite. -/
def Format.roundQuotient (f : Format) (negative : Bool) (num den : Nat) : Number :=
  if num = 0 then .finite negative 0 f.minExponent
  else
    let q := max f.minExponent (leadingExponent num den - (f.precision : Int) + 1)
    let (n, d) := unscale num den q
    let m := divToEven n d
    let (m, q) := if m = twoTo f.precision then (twoTo (f.precision - 1), q + 1) else (m, q)
    if f.maxExponent < q then .infinite negative else .finite negative m q

def Format.round (f : Format) : Number → Number
  | .nan => .nan
  | .infinite negative => .infinite negative
  | .finite negative m q =>
    if 0 ≤ q then f.roundQuotient negative (m * twoTo q.toNat) 1
    else f.roundQuotient negative m (twoTo (-q).toNat)

/-- Rounds `digits` times ten to the `exponent`. Exponents far outside the range of every format
are settled by the number of digits alone, so no power of ten gets large. -/
def Format.roundDecimal (f : Format) (negative : Bool) (digits : Nat) (exponent : Int) : Number :=
  if digits = 0 then .finite negative 0 f.minExponent
  else
    let magnitude : Int := ((Nat.toDigits 10 digits).length : Int) + exponent
    if 400 < magnitude then .infinite negative
    else if magnitude < -400 then .finite negative 0 f.minExponent
    else if 0 ≤ exponent then f.roundQuotient negative (digits * tenTo exponent.toNat) 1
    else f.roundQuotient negative digits (tenTo (-exponent).toNat)

def Format.ofInt (f : Format) (n : Int) : Number :=
  f.roundQuotient (n < 0) n.natAbs 1

theorem divToEven_one (n : Nat) : divToEven n 1 = n := by
  simp [divToEven, Nat.mod_one]

end ScreenDeck.Binary
