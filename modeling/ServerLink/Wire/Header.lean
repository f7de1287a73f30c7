import ServerLink.Text.Blank
import ServerLink.Text.Split
import ServerLink.Decimal.Natural

namespace ServerLink.Wire

open ServerLink.Text

def lowerAscii (c : Char) : Char :=
  if 'A' ≤ c ∧ c ≤ 'Z' then Char.ofNat (c.toNat + 32) else c

def contentLength : List Char :=
  "Content-Length".toList

inductive HeaderLine where
  | blank
  | length (value : List Char)
  | other
  deriving DecidableEq, Repr

/-- Whether a header's name is that of the length header; the case of letters does not count. -/
def isContentLength (name : List Char) : Bool :=
  (trim name).map lowerAscii == contentLength.map lowerAscii

def HeaderLine.ofText (line : List Char) : HeaderLine :=
  let header := trim line
  if header.isEmpty then .blank
  else
    match splitOnce ':' header with
    | none => .other
    | some (name, value) => if isContentLength name then .length (trim value) else .other

def lengthBound : Nat := Nat.pow 2 64

def lengthOf? (value : List Char) : Option Nat :=
  Decimal.readBelow? lengthBound value

end ServerLink.Wire
