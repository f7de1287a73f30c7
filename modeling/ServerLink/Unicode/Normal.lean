import ServerLink.Unicode.Combining
import ServerLink.Unicode.Composite
/-!
The composed normal form of a text: every composite is taken apart, the marks on each character are
put in the order of their classes, and then each character takes up the marks that it has a composite
with. Texts that look alike by rule have the same normal form.
-/

namespace ServerLink.Unicode

/-- The characters that a character stands for in the end. The first one of a pair may be a composite
again, so many times as the depth says. -/
def decompose : Nat → Char → List Char
  | 0, c => [c]
  | depth + 1, c =>
      match decompose? c with
      | none => [c]
      | some (a, b) => decompose depth a ++ [b]

def compositeDepth : Nat := 4

/-- Puts a character before a text that is turned around. A mark goes behind the marks of higher
classes, and marks of one class stay in order. -/
def placeMark (c : Char) : List Char → List Char
  | [] => [c]
  | d :: text =>
      if combiningClass c ≠ 0 ∧ combiningClass c < combiningClass d then d :: placeMark c text
      else c :: d :: text

def orderMarks (text : List Char) : List Char :=
  (text.foldl (fun turned c => placeMark c turned) []).reverse

/-- Composes the characters behind a base with it. A mark that does not go into the base is kept, and
keeps off the ones behind it that are not of a higher class. -/
def composeFrom (base : Char) (kept : List Char) : List Char → List Char
  | [] => base :: kept
  | c :: text =>
      let blocked := match kept.getLast? with
        | none => false
        | some d => combiningClass c ≤ combiningClass d
      match if blocked then none else compose? base c with
      | some p => composeFrom p kept text
      | none =>
          if combiningClass c = 0 then base :: kept ++ composeFrom c [] text
          else composeFrom base (kept ++ [c]) text

def compose : List Char → List Char
  | [] => []
  | c :: text => if combiningClass c = 0 then composeFrom c [] text else c :: compose text

def normal (text : List Char) : List Char :=
  compose (orderMarks (text.flatMap (decompose compositeDepth)))

end ServerLink.Unicode
