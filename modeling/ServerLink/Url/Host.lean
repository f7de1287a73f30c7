import ServerLink.Decimal.Natural
import ServerLink.Text.Split
import ServerLink.Url.Domain
import ServerLink.Url.Error
import ServerLink.Url.Percent

namespace ServerLink.Url

def isForbiddenInHost (c : Char) : Bool :=
  ['\x00', '\t', '\n', '\r', ' ', '#', '/', ':', '<', '>', '?', '@', '[', '\\', ']', '^',
    '|'].contains c

def digitsValue (base : Nat) (s : List Char) : Nat :=
  s.foldl (fun n c => base * n + ((hexValue? (UInt8.ofNat c.toNat)).getD 0)) 0

/-- The number that a part of an address denotes: to the base sixteen behind `0x`, to the base eight
behind `0`, and otherwise decimal. -/
def addressPart? (s : List Char) : Option Nat :=
  match s with
  | [] => none
  | '0' :: 'x' :: r | '0' :: 'X' :: r =>
      if r.all fun c => c.isDigit || ('a' ≤ c && c ≤ 'f') || ('A' ≤ c && c ≤ 'F') then
        some (digitsValue 16 r)
      else none
  | '0' :: c :: r =>
      if (c :: r).all fun c => '0' ≤ c && c ≤ '7' then some (digitsValue 8 (c :: r)) else none
  | s => if s.all Char.isDigit then some (Decimal.value s) else none

def significantLabels (domain : List Char) : List (List Char) :=
  let labels := Text.splitOn '.' domain
  if labels.getLast? = some [] ∧ 1 < labels.length then labels.dropLast else labels

/-- Whether the last label of a domain is a number, so that the domain has to be an address. -/
def endsInNumber (domain : List Char) : Bool :=
  match (significantLabels domain).getLast? with
  | none => false
  | some label => (!label.isEmpty && label.all Char.isDigit) || (addressPart? label).isSome

/-- The number of an address of four numbers or fewer; the last one fills what the others leave. -/
def ipv4? (domain : List Char) : Option Nat := do
  let labels := significantLabels domain
  if 4 < labels.length then none
  else
    let numbers ← labels.mapM addressPart?
    let last ← numbers.getLast?
    let others := numbers.dropLast
    if Nat.pow 256 (4 - others.length) ≤ last ∨ others.any (255 < ·) then none
    else
      let high := others.foldl (fun n p => 256 * n + p) 0
      some (high * Nat.pow 256 (4 - others.length) + last)

def writeIpv4 (n : Nat) : List Char :=
  Text.joinWith '.' ([n / 16777216, n / 65536 % 256, n / 256 % 256, n % 256].map Decimal.digits)

def isHexDigit (c : Char) : Bool :=
  c.isDigit || ('a' ≤ c && c ≤ 'f') || ('A' ≤ c && c ≤ 'F')

def groupValue? (s : List Char) : Option Nat :=
  if 1 ≤ s.length ∧ s.length ≤ 4 ∧ s.all isHexDigit then some (digitsValue 16 s) else none

/-- The two groups of a decimal address at the end: four numbers below 256 without leading zeros. -/
def decimalGroups? (s : List Char) : Option (List Nat) := do
  let numbers ← (Text.splitOn '.' s).mapM fun p =>
    if p.length ≤ 3 ∧ Decimal.isNumeral p ∧ Decimal.value p < 256 ∧
      (p.length = 1 ∨ p.head? ≠ some '0') then some (Decimal.value p) else none
  match numbers with
  | [a, b, c, d] => some [256 * a + b, 256 * c + d]
  | _ => none

def groups? (decimal : Bool) (s : List Char) : Option (List Nat) :=
  if s.isEmpty then some []
  else
    let parts := Text.splitOn ':' s
    match parts.getLast? with
    | none => none
    | some last =>
        if decimal && last.contains '.' then do
          return (← parts.dropLast.mapM groupValue?) ++ (← decimalGroups? last)
        else parts.mapM groupValue?

def splitAtColons : List Char → Option (List Char × List Char)
  | ':' :: ':' :: s => some ([], s)
  | [] => none
  | c :: s => (splitAtColons s).map fun p => (c :: p.1, p.2)

/-- The eight groups of an address; a pair of colons stands for one group of zero or more. -/
def ipv6? (s : List Char) : Option (List Nat) :=
  match splitAtColons s with
  | none => (groups? true s).filter (·.length = 8)
  | some (before, after) => do
      let before ← groups? false before
      let after ← groups? true after
      if before.length + after.length ≤ 7 then
        some (before ++ List.replicate (8 - before.length - after.length) 0 ++ after)
      else none

def leadingZeros (groups : List Nat) : Nat :=
  (groups.takeWhile (· == 0)).length

def longestZeros : Nat → List Nat → Nat × Nat
  | _, [] => (0, 0)
  | i, g :: groups =>
      let here := leadingZeros (g :: groups)
      let rest := longestZeros (i + 1) groups
      if rest.2 ≤ here then (i, here) else rest

def writeGroup (n : Nat) : List Char :=
  Nat.toDigits 16 n

/-- The text of an address of eight groups, in brackets; two colons stand for the first longest run of
two zeros or more. -/
def writeIpv6 (groups : List Nat) : List Char :=
  let (start, length) := longestZeros 0 groups
  let join := fun gs => Text.joinWith ':' (gs.map writeGroup)
  if length < 2 then '[' :: join groups ++ [']']
  else '[' :: join (groups.take start) ++ ':' :: ':' :: join (groups.drop (start + length)) ++ [']']

def bracketedHost (s : List Char) : Except UrlError (List Char) :=
  if s.getLast? = some ']' then
    match ipv6? (s.drop 1).dropLast with
    | some groups => .ok (writeIpv6 groups)
    | none => .error .malformedIpv6
  else .error .malformedIpv6

def specialHost (s : List Char) : Except UrlError (List Char) :=
  if s.head? = some '[' then bracketedHost s
  else
    match domainToAscii? (decodeBytes (Text.Utf8.encode s)) with
    | none => .error .malformedDomain
    | some domain =>
        if domain.isEmpty then .error .emptyHost
        else if endsInNumber domain then
          match ipv4? domain with
          | some n => .ok (writeIpv4 n)
          | none => .error .malformedIpv4
        else .ok domain

def opaqueHost (s : List Char) : Except UrlError (List Char) :=
  if s.head? = some '[' then bracketedHost s
  else if s.any isForbiddenInHost then .error .forbiddenCharacter
  else .ok (encodeText controls s)

end ServerLink.Url
