import ServerLink.Text.Blank
import ServerLink.Text.Split
import ServerLink.Text.Quoted
import ServerLink.Decimal.Natural

namespace ServerLink.Release

open ServerLink.Text

structure Version where
  major : Nat
  minor : Nat
  patch : Nat
  deriving DecidableEq, Repr, Ord

structure InvalidVersion where
  text : String
  deriving DecidableEq, Repr

def InvalidVersion.message (e : InvalidVersion) : String :=
  "invalid release version: " ++ quoted e.text

namespace Version

def bound : Nat := Nat.pow 2 64

def InRange (v : Version) : Prop :=
  v.major < bound ∧ v.minor < bound ∧ v.patch < bound

def part? (s : List Char) : Option Nat :=
  Decimal.readBelow? bound s

def read? (s : List Char) : Option Version :=
  match splitOn '.' (trim s) with
  | [a] => do return ⟨← part? a, 0, 0⟩
  | [a, b] => do return ⟨← part? a, ← part? b, 0⟩
  | [a, b, c] => do return ⟨← part? a, ← part? b, ← part? c⟩
  | _ => none

def parse (s : String) : Except InvalidVersion Version :=
  match read? s.toList with
  | some v => .ok v
  | none => .error ⟨s⟩

/-- The written form of a version: always three numbers. -/
def write (v : Version) : List Char :=
  Decimal.digits v.major ++ '.' :: Decimal.digits v.minor ++ '.' :: Decimal.digits v.patch

def text (v : Version) : String :=
  String.ofList v.write

end Version

end ServerLink.Release
