import ServerLink.Text.Split
/-!
Tables of properties of characters. A table is written as rows of words, most of them numbers to
the base sixteen. A property is given by the numbers at which it begins and ends, in turn, or by the
numbers from which on it has another value.
-/

namespace ServerLink.Unicode

def digitValue (c : Char) : Nat :=
  if c.isDigit then c.toNat - 48 else c.toNat - 55

def hexNumber (digits : List Char) : Nat :=
  digits.foldl (fun n c => 16 * n + digitValue c) 0

def words (rows : List String) : List (List Char) :=
  rows.flatMap fun row => Text.splitOn ' ' row.toList

def numbers (rows : List String) : List Nat :=
  (words rows).map hexNumber

def pairs {α : Type} : List α → List (α × α)
  | a :: b :: rest => (a, b) :: pairs rest
  | _ => []

def triples {α : Type} : List α → List (α × α × α)
  | a :: b :: c :: rest => (a, b, c) :: triples rest
  | _ => []

/-- Whether a number lies in the set that begins and ends, in turn, at the given ascending numbers. -/
def inChanges : List Nat → Nat → Bool
  | [], _ => false
  | start :: rest, n => if n < start then false else !inChanges rest n

/-- The value that goes with the last of the ascending numbers that is not above a number. -/
def valueAt {α : Type} (value : α) : List (Nat × α) → Nat → α
  | [], _ => value
  | (start, next) :: rest, n => if n < start then value else valueAt next rest n

end ServerLink.Unicode
