namespace ServerLink

/-- The number `± mantissa · 2 ^ exponent`. In normal form the mantissa has 53 bits, or fewer with
the least exponent. -/
structure Binary64 where
  negative : Bool
  mantissa : Nat
  exponent : Int
  deriving DecidableEq, Repr, Inhabited

namespace Binary64

def minExponent : Int := -1074

def maxExponent : Int := 971

def mantissaBound : Nat := Nat.pow 2 53

/-- The numerator and the denominator of the quotient `num / den` in units of `2 ^ e`. -/
def scaled (num den : Nat) (e : Int) : Nat × Nat :=
  if e < 0 then (num * Nat.pow 2 (-e).toNat, den) else (num, den * Nat.pow 2 e.toNat)

def roundHalfEven (num den : Nat) : Nat :=
  if 2 * (num % den) < den then num / den
  else if den < 2 * (num % den) then num / den + 1
  else num / den + num / den % 2

/-- The exponent at which a quotient has 53 bits before the point, or the least exponent. -/
def exponentOf (num den : Nat) : Int :=
  let guess := max minExponent ((num.log2 : Int) - den.log2 - 53)
  let (n, d) := scaled num den guess
  if n / d < mantissaBound then guess else guess + 1

/-- The number nearest to `± num / den`, or nothing when it is beyond the greatest. -/
def nearest? (negative : Bool) (num den : Nat) : Option Binary64 :=
  if num = 0 then some ⟨negative, 0, minExponent⟩
  else
    let e := exponentOf num den
    let (n, d) := scaled num den e
    let m := roundHalfEven n d
    let (m, e) := if m < mantissaBound then (m, e) else (m / 2, e + 1)
    if e ≤ maxExponent then some ⟨negative, m, e⟩ else none

def isZero (x : Binary64) : Bool :=
  x.mantissa == 0

/-- The value of a number without its sign, as a quotient. -/
def ratio (x : Binary64) : Nat × Nat :=
  if x.exponent < 0 then (x.mantissa, Nat.pow 2 (-x.exponent).toNat)
  else (x.mantissa * Nat.pow 2 x.exponent.toNat, 1)

def mul? (x y : Binary64) : Option Binary64 :=
  nearest? (x.negative != y.negative) (x.ratio.1 * y.ratio.1) (x.ratio.2 * y.ratio.2)

def div? (x y : Binary64) : Option Binary64 :=
  nearest? (x.negative != y.negative) (x.ratio.1 * y.ratio.2) (x.ratio.2 * y.ratio.1)

def ofNat? (n : Nat) : Option Binary64 :=
  nearest? false n 1

def neg (x : Binary64) : Binary64 :=
  { x with negative := !x.negative }

def maxPower : Nat := 308

/-- Scales a number by a power of ten in steps of at most `10 ^ 308`, rounding after each; nothing
when the result is beyond the greatest number. -/
def scaleByTen? (x : Binary64) (exponent : Int) : Option Binary64 :=
  if exponent.natAbs ≤ maxPower then do
    let power ← ofNat? (Nat.pow 10 exponent.natAbs)
    if 0 ≤ exponent then x.mul? power else x.div? power
  else if x.isZero then some x
  else if 0 ≤ exponent then none
  else do
    let power ← ofNat? (Nat.pow 10 maxPower)
    let y ← x.div? power
    scaleByTen? y (exponent + maxPower)
termination_by exponent.natAbs
decreasing_by simp only [maxPower] at *; omega

end Binary64

end ServerLink
