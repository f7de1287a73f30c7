import ServerLink.Json.Basic
import ServerLink.Decimal.Shortest
import ServerLink.Text.Utf8

namespace ServerLink.Json

def hexDigit (n : Nat) : Char :=
  if n < 10 then Char.ofNat (48 + n) else Char.ofNat (87 + n)

def escape (c : Char) : List Char :=
  if c = '"' then ['\\', '"']
  else if c = '\\' then ['\\', '\\']
  else if c = '\x08' then ['\\', 'b']
  else if c = '\x0c' then ['\\', 'f']
  else if c = '\n' then ['\\', 'n']
  else if c = '\r' then ['\\', 'r']
  else if c = '\t' then ['\\', 't']
  else if c.toNat < 0x20 then
    ['\\', 'u', '0', '0', hexDigit (c.toNat / 16), hexDigit (c.toNat % 16)]
  else [c]

def writeString (s : String) : List Char :=
  '"' :: s.toList.flatMap escape ++ ['"']

def writeInteger (n : Int) : List Char :=
  if n < 0 then '-' :: Decimal.digits n.natAbs else Decimal.digits n.natAbs

/-- The written form of a decimal: with a point and no exponent as long as the first digit stands
between the fifth place behind the point and the sixteenth before it, and otherwise with an exponent
that has a sign. -/
def writeScientific (x : Scientific) : List Char :=
  let digits := Decimal.digits x.digits
  let place : Int := x.exponent + digits.length - 1
  if x.digits = 0 then ['0', '.', '0']
  else if -5 ≤ place ∧ place ≤ 15 then
    if 0 ≤ x.exponent then digits ++ List.replicate x.exponent.toNat '0' ++ ['.', '0']
    else if 0 ≤ place then
      digits.take (place.toNat + 1) ++ '.' :: digits.drop (place.toNat + 1)
    else '0' :: '.' :: List.replicate (-place - 1).toNat '0' ++ digits
  else
    let fraction := digits.drop 1
    digits.take 1 ++ (if fraction.isEmpty then [] else '.' :: fraction) ++
      'e' :: (if place < 0 then '-' else '+') :: Decimal.digits place.natAbs

def Number.write : Number → List Char
  | .integer n => writeInteger n
  | .float x => (if x.negative then ['-'] else []) ++ writeScientific x.shortest

mutual

def write : Json → List Char
  | .null => ['n', 'u', 'l', 'l']
  | .bool true => ['t', 'r', 'u', 'e']
  | .bool false => ['f', 'a', 'l', 's', 'e']
  | .number n => n.write
  | .string s => writeString s
  | .array items => '[' :: writeItems items
  | .object fields => '\x7b' :: writeMembers fields

def writeItems : List Json → List Char
  | [] => [']']
  | [j] => write j ++ [']']
  | j :: k :: items => write j ++ ',' :: writeItems (k :: items)

def writeMembers : List (String × Json) → List Char
  | [] => ['\x7d']
  | [(k, j)] => writeString k ++ ':' :: write j ++ ['\x7d']
  | (k, j) :: m :: fields => writeString k ++ ':' :: write j ++ ',' :: writeMembers (m :: fields)

end

def writeBytes (j : Json) : List UInt8 :=
  Text.Utf8.encode j.write

def text (j : Json) : String :=
  String.ofList j.write

end ServerLink.Json
