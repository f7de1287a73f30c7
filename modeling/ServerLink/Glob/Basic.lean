import ServerLink.Text.Utf8
/-!
Patterns for paths. A pattern is a row of tokens; each token leads from places in a path to places
behind them, and a pattern matches a path of which its tokens lead from the start to the end.
-/

namespace ServerLink.Glob

inductive Token where
  | literal (c : Char)
  | anyByte
  | anyBytes
  /-- One byte that is in the ranges, or that is in none of them. -/
  | byteClass (negated : Bool) (ranges : List (Char × Char))
  | leadingDirectories
  /-- Everything below a directory, at the end. -/
  | directoryContent
  /-- A slash, with any directories behind it. -/
  | innerDirectories
  | alternatives (branches : List (List Token))
  deriving Repr, Inhabited

def slash : UInt8 := 47

structure Place where
  offset : Nat
  rest : List UInt8
  deriving DecidableEq, Repr, Inhabited

def Place.next? (wanted : UInt8 → Bool) (p : Place) : Option Place :=
  match p.rest with
  | [] => none
  | b :: s => if wanted b then some ⟨p.offset + 1, s⟩ else none

def Place.behind? : List UInt8 → Place → Option Place
  | [], p => some p
  | b :: bytes, p => (p.next? (· == b)).bind (Place.behind? bytes)

def placesFrom (offset : Nat) : List UInt8 → List Place
  | [] => [⟨offset, []⟩]
  | b :: s => ⟨offset, b :: s⟩ :: placesFrom (offset + 1) s

def placesBehindSlashes (offset : Nat) : List UInt8 → List Place
  | [] => []
  | b :: s =>
      if b = slash then ⟨offset + 1, s⟩ :: placesBehindSlashes (offset + 1) s
      else placesBehindSlashes (offset + 1) s

/-- A row of places without the ones that stand in it again at once. -/
def once : List Place → List Place
  | p :: q :: ps => if p.offset = q.offset then once (q :: ps) else p :: once (q :: ps)
  | ps => ps

/-- The places of two ascending rows, as one ascending row. -/
def unite (ps qs : List Place) : List Place :=
  once (ps.merge qs fun p q => p.offset ≤ q.offset)

/-- The places from the first one of an ascending row on. -/
def onward : List Place → List Place
  | [] => []
  | p :: _ => placesFrom p.offset p.rest

/-- The places of an ascending row and those behind slashes from the first one on. -/
def throughDirectories : List Place → List Place
  | [] => []
  | p :: ps => unite (p :: ps) (placesBehindSlashes p.offset p.rest)

/-- The ranges of bytes of a range of characters. Characters outside ASCII stand for their bytes, and the
range goes from the last byte of the one to the first byte of the other. -/
def byteRanges (low high : Char) : List (UInt8 × UInt8) :=
  let single := fun b : UInt8 => (b, b)
  let lows := Text.Utf8.encodeChar low
  let highs := Text.Utf8.encodeChar high
  if low = high then lows.map single
  else
    lows.dropLast.map single ++ [(lows.getLastD 0, highs.headD 0)] ++ (highs.drop 1).map single

def inRanges (ranges : List (Char × Char)) (b : UInt8) : Bool :=
  (ranges.flatMap fun r => byteRanges r.1 r.2).any fun r => r.1 ≤ b && b ≤ r.2

mutual

/-- Whether a token takes nothing in any case: all its branches are empty. -/
def Token.isVoid : Token → Bool
  | .alternatives branches => allVoid branches
  | _ => false

def isVoidRow : List Token → Bool
  | [] => true
  | t :: ts => t.isVoid && isVoidRow ts

def allVoid : List (List Token) → Bool
  | [] => true
  | b :: bs => isVoidRow b && allVoid bs

end

mutual

/-- The places to which a token leads from an ascending row of places. A branch that takes nothing is
no alternative to one that takes something. -/
def Token.lead : Token → List Place → List Place
  | .literal c, ps => ps.filterMap (Place.behind? (Text.Utf8.encodeChar c))
  | .anyByte, ps => ps.filterMap (Place.next? fun _ => true)
  | .anyBytes, ps => onward ps
  | .byteClass negated ranges, ps =>
      ps.filterMap (Place.next? fun b => inRanges ranges b != negated)
  | .leadingDirectories, ps => throughDirectories ps
  | .directoryContent, ps => onward (ps.filterMap (Place.next? (· == slash)))
  | .innerDirectories, ps => throughDirectories (ps.filterMap (Place.next? (· == slash)))
  | .alternatives branches, ps => if allVoid branches then ps else leadAny branches ps

def leadRow : List Token → List Place → List Place
  | [], ps => ps
  | t :: ts, ps => leadRow ts (t.lead ps)

/-- The places to which one of the rows leads that takes something. -/
def leadAny : List (List Token) → List Place → List Place
  | [], _ => []
  | b :: bs, ps =>
      if isVoidRow b then leadAny bs ps else unite (leadRow b ps) (leadAny bs ps)

end

def Token.isLiteral : Token → Bool
  | .literal _ => true
  | _ => false

def Token.isChar (c : Char) : Token → Bool
  | .literal d => c == d
  | _ => false

/-- Whether a byte string ends in an upward step, which is no name of a file. -/
def endsUpward (path : List UInt8) : Bool :=
  path.reverse.takeWhile (· != slash) == [46, 46]

/-- The parts of a pattern that is a text behind wildcards: whether directories lead it, whether a
wildcard for any bytes comes next, and the rest. -/
def splitText (tokens : List Token) : Bool × Bool × List Token :=
  let (directories, body) := match tokens with
    | .leadingDirectories :: ts => (true, ts)
    | ts => (false, ts)
  match body with
  | .anyBytes :: ts => (directories, true, ts)
  | ts => (directories, false, ts)

/-- Whether a pattern that ends in a dot can match a path that ends in an upward step. As that is no
name of a file and has no extension, the pattern has to be a text at the end of the whole path. -/
def matchesUpward (tokens : List Token) : Bool :=
  let (directories, wild, text) := splitText tokens
  text.all Token.isLiteral &&
    if wild then 1 < text.length
    else !directories || text.any (Token.isChar '/')

end ServerLink.Glob

namespace ServerLink

structure Glob where
  tokens : List Glob.Token
  deriving Repr, Inhabited

namespace Glob

def isMatch (g : Glob) (path : List UInt8) : Bool :=
  match g.tokens with
  | [.leadingDirectories] => true
  | tokens =>
      (leadRow tokens [⟨0, path⟩]).any (·.rest.isEmpty) &&
        (!endsUpward path || !tokens.getLast?.any (Token.isChar '.') || matchesUpward tokens)

end Glob

end ServerLink
