import ServerLink.Text.Utf8

namespace ServerLink.Url

def asciiChar (b : UInt8) : Char :=
  Char.ofNat b.toNat

def hexDigit (n : Nat) : Char :=
  if n < 10 then Char.ofNat (48 + n) else Char.ofNat (55 + n)

def escapeByte (b : UInt8) : List Char :=
  ['%', hexDigit (b.toNat / 16), hexDigit (b.toNat % 16)]

abbrev EscapeSet := Char → Bool

def controls : EscapeSet :=
  fun c => c.toNat < 0x20 || c.toNat == 0x7F

def EscapeSet.add (set : EscapeSet) (chars : List Char) : EscapeSet :=
  fun c => set c || chars.contains c

def fragmentSet : EscapeSet :=
  EscapeSet.add controls [' ', '"', '<', '>', '\x60']

def pathSet : EscapeSet :=
  EscapeSet.add fragmentSet ['#', '?', '\x7b', '\x7d']

def userinfoSet : EscapeSet :=
  EscapeSet.add pathSet ['/', ':', ';', '=', '@', '[', '\\', ']', '^', '|']

/-- What is escaped in a name of a file that becomes a segment of a path. -/
def segmentSet : EscapeSet :=
  EscapeSet.add pathSet ['/', '%', '\\']

def querySet : EscapeSet :=
  EscapeSet.add controls [' ', '"', '#', '<', '>']

def specialQuerySet : EscapeSet :=
  EscapeSet.add querySet ['\'']

def encodeByte (set : EscapeSet) (b : UInt8) : List Char :=
  if b.toNat < 0x80 ∧ !set (asciiChar b) then [asciiChar b] else escapeByte b

def encodeBytes (set : EscapeSet) (s : List UInt8) : List Char :=
  s.flatMap (encodeByte set)

def encodeText (set : EscapeSet) (s : List Char) : List Char :=
  encodeBytes set (Text.Utf8.encode s)

def hexValue? (b : UInt8) : Option Nat :=
  if 48 ≤ b.toNat ∧ b.toNat ≤ 57 then some (b.toNat - 48)
  else if 97 ≤ b.toNat ∧ b.toNat ≤ 102 then some (b.toNat - 87)
  else if 65 ≤ b.toNat ∧ b.toNat ≤ 70 then some (b.toNat - 55)
  else none

/-- The byte string that an encoded one stands for. A percent sign without two digits behind it stays
as it is. -/
def decodeBytes : List UInt8 → List UInt8
  | [] => []
  | 37 :: a :: b :: s =>
      match hexValue? a, hexValue? b with
      | some x, some y => UInt8.ofNat (16 * x + y) :: decodeBytes s
      | _, _ => 37 :: decodeBytes (a :: b :: s)
  | c :: s => c :: decodeBytes s

end ServerLink.Url
