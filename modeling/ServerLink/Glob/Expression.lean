import ServerLink.Glob.Basic

namespace ServerLink.Glob

def smallHexDigit (n : Nat) : Char :=
  if n < 10 then Char.ofNat (48 + n) else Char.ofNat (87 + n)

/-- A byte in an expression. A sign with a meaning stands behind a backslash, and a byte outside ASCII
is written as a number. -/
def byteExpression (b : UInt8) : List Char :=
  let c := Char.ofNat b.toNat
  if 128 ≤ b.toNat then ['\\', 'x', smallHexDigit (b.toNat / 16), smallHexDigit (b.toNat % 16)]
  else if ['\\', '.', '+', '*', '?', '(', ')', '|', '[', ']', '\x7b', '\x7d', '^', '$', '#', '&', '-',
      '~'].contains c then ['\\', c]
  else [c]

def charExpression (c : Char) : List Char :=
  (Text.Utf8.encodeChar c).flatMap byteExpression

def rangeExpression (range : Char × Char) : List Char :=
  if range.1 = range.2 then charExpression range.1
  else charExpression range.1 ++ '-' :: charExpression range.2

mutual

def Token.expression : Token → List Char
  | .literal c => charExpression c
  | .anyByte => ['.']
  | .anyBytes => ['.', '*']
  | .byteClass negated ranges =>
      '[' :: (if negated then ['^'] else []) ++ ranges.flatMap rangeExpression ++ [']']
  | .leadingDirectories => "(?:/?|.*/)".toList
  | .directoryContent => "/.*".toList
  | .innerDirectories => "(?:/|/.*/)".toList
  | .alternatives branches =>
      if allVoid branches then []
      else '(' :: '?' :: ':' :: branchesExpression false branches ++ [')']

def rowExpression : List Token → List Char
  | [] => []
  | t :: ts => t.expression ++ rowExpression ts

/-- The expressions of the branches that take something, with bars between them and also, if some
stand before, at the start. -/
def branchesExpression (started : Bool) : List (List Token) → List Char
  | [] => []
  | b :: bs =>
      if isVoidRow b then branchesExpression started bs
      else (if started then ['|'] else []) ++ rowExpression b ++ branchesExpression true bs

end

def Token.width : Token → Nat
  | .literal c => (Text.Utf8.encodeChar c).length
  | .directoryContent => 2
  | .alternatives branches => if allVoid branches then 0 else 1
  | _ => 1

/-- The number of the branches that take something. -/
def branchCount (branches : List (List Token)) : Nat :=
  (branches.filter (!isVoidRow ·)).length

/-- One level for what has several parts. -/
def levelOf (parts : Nat) : Nat :=
  if parts ≤ 1 then 0 else 1

mutual

def Token.depth : Token → Nat
  | .literal _ => 0
  | .anyByte => 0
  | .anyBytes => 1
  | .byteClass _ ranges => 1 + levelOf (ranges.flatMap fun r => byteRanges r.1 r.2).length
  | .leadingDirectories => 4
  | .directoryContent => 1
  | .innerDirectories => 4
  | .alternatives branches =>
      if allVoid branches then 0 else 1 + levelOf (branchCount branches) + deepestBranch branches

def deepest : List Token → Nat
  | [] => 0
  | t :: ts => max t.depth (deepest ts)

def deepestBranch : List (List Token) → Nat
  | [] => 0
  | b :: bs => max (deepest b + levelOf (b.map Token.width).sum) (deepestBranch bs)

end

def expression (g : Glob) : String :=
  let body := match g.tokens with
    | [.leadingDirectories] => ['.', '*']
    | tokens => rowExpression tokens
  String.ofList ("(?-u)^".toList ++ body ++ ['$'])

def depth (g : Glob) : Nat :=
  1 + deepest g.tokens

def greatestDepth : Nat := 250

end ServerLink.Glob
