import ServerLink.Decimal.Binary64
import ServerLink.Decimal.Natural
import ServerLink.Text.Split
import ServerLink.Toml.Basic

namespace ServerLink.Toml.Scalar

/-- Whether a text is a row of digits, in which single underscores may stand between digits. -/
def isDigitRow (digit : Char → Bool) (s : List Char) : Bool :=
  (Text.splitOn '_' s).all fun part => !part.isEmpty && part.all digit

def isDecimalRow (s : List Char) : Bool :=
  isDigitRow Char.isDigit s && (s.head? != some '0' || s.length == 1)

def splitSign : List Char → Bool × List Char
  | '-' :: s => (true, s)
  | '+' :: s => (false, s)
  | s => (false, s)

def isHexDigit (c : Char) : Bool :=
  c.isDigit || ('a' ≤ c && c ≤ 'f') || ('A' ≤ c && c ≤ 'F')

def hexDigitValue (c : Char) : Nat :=
  if c.isDigit then c.toNat - 48 else if c.isLower then c.toNat - 87 else c.toNat - 55

def valueToBase (base : Nat) (s : List Char) : Nat :=
  (s.filter (· != '_')).foldl (fun n c => base * n + hexDigitValue c) 0

/-- The integer that a word denotes. A sign is for decimal ones only. -/
def integer? (s : List Char) : Option Int :=
  match s with
  | '0' :: 'x' :: r => if isDigitRow isHexDigit r then some (valueToBase 16 r) else none
  | '0' :: 'o' :: r =>
      if isDigitRow (fun c => '0' ≤ c && c ≤ '7') r then some (valueToBase 8 r) else none
  | '0' :: 'b' :: r =>
      if isDigitRow (fun c => c == '0' || c == '1') r then some (valueToBase 2 r) else none
  | _ =>
      let (negative, r) := splitSign s
      if isDecimalRow r then
        some (if negative then -(valueToBase 10 r : Int) else valueToBase 10 r)
      else none

/-- Whether digits times a power of ten are not beyond the greatest number. -/
def isFinite (digits : List Char) (power : Int) : Bool :=
  let digits := digits.dropWhile (· == '0')
  let magnitude : Int := digits.length + power
  if digits.isEmpty || magnitude < 300 then true
  else if 320 < magnitude then false
  else if 0 ≤ power then
    (Binary64.nearest? false (Decimal.value digits * Nat.pow 10 power.toNat) 1).isSome
  else (Binary64.nearest? false (Decimal.value digits) (Nat.pow 10 power.natAbs)).isSome

def isFloat (s : List Char) : Bool :=
  let body := (splitSign s).2
  if body = "inf".toList ∨ body = "nan".toList then true
  else
    let (mantissa, exponent) := match body.span fun c => c != 'e' && c != 'E' with
      | (m, []) => (m, none)
      | (m, _ :: e) => (m, some e)
    let (whole, fraction) := match Text.splitOnce '.' mantissa with
      | none => (mantissa, none)
      | some (w, f) => (w, some f)
    let exponentValue : Int := match exponent with
      | none => 0
      | some e =>
          let (negative, digits) := splitSign e
          if negative then -(valueToBase 10 digits : Int) else valueToBase 10 digits
    let clean := fun s : List Char => s.filter (· != '_')
    let fractionDigits := clean (fraction.getD [])
    (fraction.isSome || exponent.isSome) && isDecimalRow whole &&
      fraction.all (isDigitRow Char.isDigit) &&
      exponent.all (fun e => isDigitRow Char.isDigit (splitSign e).2) &&
      isFinite (clean whole ++ fractionDigits) (exponentValue - fractionDigits.length)

def fixed? (length : Nat) (s : List Char) : Option Nat :=
  if s.length = length ∧ s.all Char.isDigit then some (Decimal.value s) else none

def daysIn (year month : Nat) : Nat :=
  if month = 2 then
    if year % 4 = 0 ∧ (year % 100 ≠ 0 ∨ year % 400 = 0) then 29 else 28
  else if month = 4 ∨ month = 6 ∨ month = 9 ∨ month = 11 then 30
  else 31

def isDate (s : List Char) : Bool :=
  match Text.splitOn '-' s with
  | [y, m, d] =>
      match fixed? 4 y, fixed? 2 m, fixed? 2 d with
      | some y, some m, some d => 1 ≤ m && m ≤ 12 && 1 ≤ d && d ≤ daysIn y m
      | _, _, _ => false
  | _ => false

def isUpTo (length greatest : Nat) (s : List Char) : Bool :=
  (fixed? length s).any (· ≤ greatest)

/-- Whether a text is a time of a day. The seconds may be missing, and may have decimals. -/
def isClock (s : List Char) : Bool :=
  match Text.splitOn ':' s with
  | [h, m] => isUpTo 2 23 h && isUpTo 2 59 m
  | [h, m, r] =>
      let (seconds, decimals) := (Text.splitOnce '.' r).getD (r, ['0'])
      isUpTo 2 23 h && isUpTo 2 59 m && isUpTo 2 60 seconds && Decimal.isNumeral decimals
  | _ => false

def isOffset (s : List Char) : Bool :=
  match Text.splitOn ':' s with
  | [h, m] => isUpTo 2 23 h && isUpTo 2 59 m
  | _ => false

def isClockWithOffset (s : List Char) : Bool :=
  match s.reverse with
  | 'Z' :: r | 'z' :: r => isClock r.reverse
  | _ =>
      match s.span fun c => c != '+' && c != '-' with
      | (clock, []) => isClock clock
      | (clock, _ :: offset) => isClock clock && isOffset offset

/-- Whether a word is a date, a time, or both with a `T` or a space between them. -/
def isTime (s : List Char) : Bool :=
  isClock s || isDate s ||
    (isDate (s.take 10) &&
      match s.drop 10 with
      | c :: r => (c == 'T' || c == 't' || c == ' ') && isClockWithOffset r
      | [] => false)

def content? (s : List Char) : Option Content :=
  if s = "true".toList then some (.boolean true)
  else if s = "false".toList then some (.boolean false)
  else
    match integer? s with
    | some n => some (.integer n)
    | none => if isFloat s then some (.float s) else if isTime s then some (.time s) else none

def isWordChar (c : Char) : Bool :=
  c.isAlphanum || c == '+' || c == '-' || c == '_' || c == '.' || c == ':'

/-- Cuts a text behind its first word. A date, a space and what follows make up one word. -/
def splitWord (s : List Char) : List Char × List Char :=
  match s.span isWordChar with
  | (word, ' ' :: c :: r) =>
      if isDate word && c.isDigit then
        let (more, rest) := (c :: r).span isWordChar
        (word ++ ' ' :: more, rest)
      else (word, ' ' :: c :: r)
  | p => p

def read? (s : List Char) : Option (Value × List Char) := do
  let (word, rest) := splitWord s
  return (⟨← content? word, word⟩, rest)

end ServerLink.Toml.Scalar
