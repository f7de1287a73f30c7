import ServerLink.Json.Basic
import ServerLink.Json.Form
import ServerLink.Text.Utf8
/-!
The value of a JSON text. Escaped units that form a surrogate pair become one character and no
other surrogate is allowed; a number that is beyond the greatest is refused; so is a value nested
deeper than the limit. Of the members with one key the last counts.
-/

namespace ServerLink.Json

def isHighSurrogate (n : Nat) : Bool :=
  0xD800 ≤ n && n ≤ 0xDBFF

def isLowSurrogate (n : Nat) : Bool :=
  0xDC00 ≤ n && n ≤ 0xDFFF

def ofSurrogates (high low : Nat) : Char :=
  Char.ofNat (0x10000 + (high - 0xD800) * 0x400 + (low - 0xDC00))

/-- The characters of a written string, if its surrogates stand in pairs. -/
def decodePieces : List Piece → Option (List Char)
  | [] => some []
  | .char c :: p => (decodePieces p).map (c :: ·)
  | .unit h :: .unit l :: p =>
      if isHighSurrogate h then
        if isLowSurrogate l then (decodePieces p).map (ofSurrogates h l :: ·) else none
      else if isLowSurrogate h then none
      else (decodePieces (.unit l :: p)).map (Char.ofNat h :: ·)
  | .unit h :: p =>
      if isHighSurrogate h || isLowSurrogate h then none
      else (decodePieces p).map (Char.ofNat h :: ·)

def pieceText? (p : List Piece) : Option String :=
  (decodePieces p).map String.ofList

def significandBound : Nat := Nat.pow 2 64

/-- Appends digits to a significand as long as it stays below its bound, and gives the digits that
are left from the first that does not fit. -/
def takeDigits (significand : Nat) : List Char → Nat × List Char
  | [] => (significand, [])
  | c :: s =>
      if 10 * significand + (c.toNat - 48) < significandBound then
        takeDigits (10 * significand + (c.toNat - 48)) s
      else (significand, c :: s)

/-- The greatest exponent that is told apart from an endless one. -/
def maxExponent : Nat := Nat.pow 2 31 - 1

def ofParts? (negative : Bool) (significand : Nat) (exponent : Int) : Option Number := do
  let x ← Binary64.ofNat? significand
  let y ← x.scaleByTen? exponent
  return .float (if negative then y.neg else y)

/-- The number that a numeral denotes. An integer in range stays one, apart from a negative zero.
Of any other number the leading digits that fit make up the significand. -/
def Numeral.number? (n : Numeral) : Option Number :=
  let (significand, left) := takeDigits 0 n.whole
  if left.isEmpty && n.fraction.isEmpty && n.exponent.isNone then
    if !n.negative then some (.integer significand)
    else if 1 ≤ significand ∧ significand ≤ Nat.pow 2 63 then some (.integer (-significand))
    else ofParts? true significand 0
  else
    let (significand, unread) := takeDigits significand n.fraction
    let shift : Int := left.length - (n.fraction.length - unread.length : Nat)
    match n.exponent with
    | none => ofParts? n.negative significand shift
    | some (below, digits) =>
        if Decimal.value digits ≤ maxExponent then
          ofParts? n.negative significand
            (if below then shift - Decimal.value digits else shift + Decimal.value digits)
        else if significand ≠ 0 ∧ !below then none
        else ofParts? n.negative 0 0

mutual

/-- How many arrays and objects lie around the innermost part of a form, itself included. -/
def Form.depth : Form → Nat
  | .array items => depthItems items + 1
  | .object members => depthMembers members + 1
  | _ => 0

def depthItems : List Form → Nat
  | [] => 0
  | f :: items => max f.depth (depthItems items)

def depthMembers : List (List Piece × Form) → Nat
  | [] => 0
  | (_, f) :: members => max f.depth (depthMembers members)

end

def maxDepth : Nat := 127

mutual

/-- The value of a form, whatever its depth. -/
def Form.value? : Form → Option Json
  | .null => some .null
  | .bool b => some (.bool b)
  | .number n => n.number?.map .number
  | .string p => (pieceText? p).map .string
  | .array items => (valueItems items).map .array
  | .object members => (valueMembers members).map ofFields

def valueItems : List Form → Option (List Json)
  | [] => some []
  | f :: items => do
      let j ← f.value?
      let js ← valueItems items
      return j :: js

def valueMembers : List (List Piece × Form) → Option (List (String × Json))
  | [] => some []
  | (p, f) :: members => do
      let k ← pieceText? p
      let j ← f.value?
      let rest ← valueMembers members
      return (k, j) :: rest

end

def read? (s : List Char) : Option Json := do
  let f ← Form.read? s
  if f.depth ≤ maxDepth then f.value? else none

def readBytes? (s : List UInt8) : Option Json := do
  let text ← Text.Utf8.decode s
  read? text

end ServerLink.Json
