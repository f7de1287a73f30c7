import ServerLink.Decimal.Natural
import ServerLink.Decimal.Binary64
/-!
The shortest decimal of a floating-point number: the fewest digits that are rounded to the number
again, and of those the ones nearest to it.
-/

namespace ServerLink

structure Scientific where
  digits : Nat
  exponent : Int
  deriving DecidableEq, Repr, Inhabited

namespace Scientific

def strip (x : Scientific) : Scientific :=
  if x.digits = 0 then x
  else if x.digits % 10 = 0 then strip ⟨x.digits / 10, x.exponent + 1⟩
  else x
termination_by x.digits

end Scientific

namespace Binary64

/-- The greatest `s` with `10 ^ s` at most the positive quotient `num / den`. -/
def magnitude (num den : Nat) : Int :=
  if den ≤ num then (Decimal.digits (num / den)).length - 1
  else
    let below := (den + num - 1) / num - 1
    Int.neg (if below = 0 then 0 else (Decimal.digits below).length)

/-- Whether `a / b` lies between the bounds `lo / d` and `hi / d`, which count if `closed`. -/
def between (a b lo hi d : Nat) (closed : Bool) : Bool :=
  if closed then lo * b ≤ a * d && a * d ≤ hi * b else lo * b < a * d && a * d < hi * b

def decimalRatio (n : Nat) (k : Int) : Nat × Nat :=
  if k < 0 then (n, Nat.pow 10 (-k).toNat) else (n * Nat.pow 10 k.toNat, 1)

def distance (a b c d : Nat) : Nat :=
  if a * d ≤ c * b then c * b - a * d else a * d - c * b

/-- The better of the two neighbours of a number on the grid of multiples of `10 ^ k`, if one of
them is rounded to the number. The numbers rounded to it lie between `lo / d` and `hi / d`. -/
def onGrid? (num den lo hi d : Nat) (closed : Bool) (k : Int) : Option Nat :=
  let unit := decimalRatio 1 k
  let below := num * unit.2 / (den * unit.1)
  let ok (n : Nat) : Bool :=
    let q := decimalRatio n k
    n != 0 && between q.1 q.2 lo hi d closed
  let far (n : Nat) : Nat :=
    let q := decimalRatio n k
    distance q.1 q.2 num den
  match ok below, ok (below + 1) with
  | false, false => none
  | true, false => some below
  | false, true => some (below + 1)
  | true, true =>
      if far below < far (below + 1) then some below
      else if far (below + 1) < far below then some (below + 1)
      else some (below + below % 2)

/-- The first of the grids for `count` more digits, after `used` digits, that has a hit. -/
def firstGrid (num den lo hi d : Nat) (closed : Bool) (top : Int) : Nat → Nat → Option Scientific
  | 0, _ => none
  | count + 1, used =>
      let k := top - used
      match onGrid? num den lo hi d closed k with
      | some n => some ⟨n, k⟩
      | none => firstGrid num den lo hi d closed top count (used + 1)

/-- The shortest decimal of a number without its sign. Seventeen digits are always enough. -/
def shortest (x : Binary64) : Scientific :=
  if x.isZero then ⟨0, 0⟩
  else
    let quarter (n : Nat) : Nat × Nat := ratio ⟨false, n, x.exponent - 2⟩
    let step := if 2 * x.mantissa = mantissaBound && x.exponent ≠ minExponent then 1 else 2
    let (lo, d) := quarter (4 * x.mantissa - step)
    let (hi, _) := quarter (4 * x.mantissa + 2)
    let (num, den) := x.ratio
    let closed := x.mantissa % 2 = 0
    match firstGrid num den lo hi d closed (magnitude num den) 17 0 with
    | some s => s.strip
    | none => ⟨0, 0⟩

end Binary64

end ServerLink
