import ServerLink.Decimal.Natural

namespace ServerLink

structure Duration where
  milliseconds : Nat
  deriving DecidableEq, Repr, Inhabited

namespace Duration

def ofSeconds (n : Nat) : Duration :=
  ⟨1000 * n⟩

/-- The decimals of a number of thousandths, without zeros at the end. -/
def decimals (n : Nat) : List Char :=
  let digits := (Decimal.digits (1000 + n)).drop 1
  (digits.reverse.dropWhile (· == '0')).reverse

def text (d : Duration) : String :=
  let seconds := d.milliseconds / 1000
  let rest := d.milliseconds % 1000
  if d.milliseconds = 0 then "0ns"
  else if seconds = 0 then String.ofList (Decimal.digits rest) ++ "ms"
  else if rest = 0 then String.ofList (Decimal.digits seconds) ++ "s"
  else String.ofList (Decimal.digits seconds ++ '.' :: decimals rest) ++ "s"

end Duration

end ServerLink
