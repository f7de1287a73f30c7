import ServerLink.Text.Split
import ServerLink.Text.Utf8
import ServerLink.Unicode.Direction
import ServerLink.Unicode.Folding
import ServerLink.Unicode.Joining
import ServerLink.Unicode.Normal
import ServerLink.Url.Punycode

namespace ServerLink.Url

def isForbiddenInDomain (c : Char) : Bool :=
  c.toNat ≤ 0x20 || c.toNat == 0x7F ||
    ['%', '#', '/', ':', '<', '>', '?', '@', '[', '\\', ']', '^', '|'].contains c

def isAscii (s : List Char) : Bool :=
  s.all (·.toNat < 128)

def encodedMark : List Char := ['x', 'n', '-', '-']

def longestEncoded : Nat := 1000

def longestDecoded : Nat := 2000

def foldDomain? (s : List Char) : Option (List Char) :=
  (s.mapM Unicode.fold?).map List.flatten

/-- The label that an encoded form stands for. It is a label as folding leaves it. -/
def decodeLabel? (s : List Char) : Option (List Char) := do
  if s.isEmpty || s.getLast? == some '-' || longestDecoded < s.length then none
  else
    let label ← Punycode.decode s
    if foldDomain? label == some label && Unicode.normal label == label && !label.contains '.' then
      some label
    else none

/-- Whether the characters before and behind a mark of joining join there. The characters before it
are turned around. -/
def joinsAt (before behind : List Char) : Bool :=
  let left := (before.map Unicode.joining).dropWhile (· == .transparent)
  let right := (behind.map Unicode.joining).dropWhile (· == .transparent)
  (left.head? == some .onLeft || left.head? == some .onBoth) &&
    (right.head? == some .onRight || right.head? == some .onBoth)

/-- Whether each mark of joining has a place where it makes a difference: behind a character that
silences a vowel or, for the mark that keeps characters apart, between characters that join. -/
def joinersFit (before : List Char) : List Char → Bool
  | [] => true
  | c :: behind =>
      let afterVirama := before.head?.any Unicode.isVirama
      (match c.toNat with
        | 0x200C => afterVirama || joinsAt before behind
        | 0x200D => afterVirama
        | _ => true) && joinersFit (c :: before) behind

def isLabel (label : List Char) : Bool :=
  !label.any isForbiddenInDomain && !label.head?.any Unicode.isMark && joinersFit [] label

def turnsAround (c : Char) : Bool :=
  Unicode.direction c == .rightToLeft || Unicode.direction c == .arabicDigit

def hasOneDirection (label : List Char) : Bool :=
  let directions := label.map Unicode.direction
  let last := (directions.reverse.dropWhile (· == .mark)).head?
  match directions.head? with
  | none => true
  | some .leftToRight =>
      directions.all (fun d => [.leftToRight, .europeanDigit, .neutral, .mark].contains d) &&
        (last == some .leftToRight || last == some .europeanDigit)
  | some .rightToLeft =>
      directions.all (fun d =>
          [.rightToLeft, .arabicDigit, .europeanDigit, .neutral, .mark].contains d) &&
        (last == some .rightToLeft || last == some .europeanDigit || last == some .arabicDigit) &&
        !(directions.contains .europeanDigit && directions.contains .arabicDigit)
  | some _ => false

/-- A label as it is written: in its encoded form unless it is in ASCII. -/
def writeLabel? (label : List Char) : Option (List Char) :=
  if isAscii label then some label
  else if longestEncoded < label.length then none
  else some (encodedMark ++ Punycode.encode label)

def readLabel? (label : List Char) : Option (List Char) :=
  if encodedMark.isPrefixOf label then decodeLabel? (label.drop encodedMark.length) else some label

def domainToAscii? (domain : List UInt8) : Option (List Char) := do
  let text ← Text.Utf8.decode domain
  let folded ← foldDomain? text
  let labels ← (Text.splitOn '.' (Unicode.normal folded)).mapM readLabel?
  if labels.all isLabel && (!labels.any (·.any turnsAround) || labels.all hasOneDirection) then
    (labels.mapM writeLabel?).map (Text.joinWith '.')
  else none

end ServerLink.Url
