namespace ServerLink.Toml.Quoted

def isControl (c : Char) : Bool :=
  (c.toNat < 0x20 && c != '\t') || c.toNat == 0x7F

def hexValue? (c : Char) : Option Nat :=
  if '0' ≤ c ∧ c ≤ '9' then some (c.toNat - 48)
  else if 'a' ≤ c ∧ c ≤ 'f' then some (c.toNat - 87)
  else if 'A' ≤ c ∧ c ≤ 'F' then some (c.toNat - 55)
  else none

def charOf? (s : List Char) : Option Char := do
  let n ← s.foldlM (fun n c => (hexValue? c).map (16 * n + ·)) 0
  if n < 0x110000 ∧ ¬ (0xD800 ≤ n ∧ n < 0xE000) then some (Char.ofNat n) else none

def escaped? : Char → Option Char
  | 'b' => some '\x08'
  | 't' => some '\t'
  | 'n' => some '\n'
  | 'f' => some '\x0c'
  | 'r' => some '\r'
  | 'e' => some '\x1b'
  | '"' => some '"'
  | '\\' => some '\\'
  | _ => none

def put (c : Char) (x : Option (List Char × List Char)) : Option (List Char × List Char) :=
  x.map fun p => (c :: p.1, p.2)

/-- Reads the inside of a string on one line, and gives what stands behind its quote. -/
def readBasic : List Char → Option (List Char × List Char)
  | [] => none
  | '"' :: s => some ([], s)
  | '\\' :: 'x' :: a :: b :: s => do put (← charOf? [a, b]) (readBasic s)
  | '\\' :: 'u' :: a :: b :: c :: d :: s => do put (← charOf? [a, b, c, d]) (readBasic s)
  | '\\' :: 'U' :: a :: b :: c :: d :: e :: f :: g :: h :: s => do
      put (← charOf? [a, b, c, d, e, f, g, h]) (readBasic s)
  | '\\' :: c :: s => do put (← escaped? c) (readBasic s)
  | c :: s => if isControl c || c == '\\' then none else put c (readBasic s)

def readLiteral : List Char → Option (List Char × List Char)
  | [] => none
  | '\'' :: s => some ([], s)
  | c :: s => if isControl c then none else put c (readLiteral s)

def endsLine (s : List Char) : Bool :=
  match s.dropWhile fun c => c == ' ' || c == '\t' with
  | '\n' :: _ => true
  | '\r' :: '\n' :: _ => true
  | _ => false

/-- Reads the inside of a string over several lines, and gives what stands behind its quotes. While
`skipping`, space and ends of lines do not count. Up to two quotes may stand before the closing ones. -/
def readLines (skipping : Bool) : List Char → Option (List Char × List Char)
  | [] => none
  | '"' :: '"' :: '"' :: '"' :: '"' :: s => some (['"', '"'], s)
  | '"' :: '"' :: '"' :: '"' :: s => some (['"'], s)
  | '"' :: '"' :: '"' :: s => some ([], s)
  | '\\' :: 'x' :: a :: b :: s => do put (← charOf? [a, b]) (readLines false s)
  | '\\' :: 'u' :: a :: b :: c :: d :: s => do put (← charOf? [a, b, c, d]) (readLines false s)
  | '\\' :: 'U' :: a :: b :: c :: d :: e :: f :: g :: h :: s => do
      put (← charOf? [a, b, c, d, e, f, g, h]) (readLines false s)
  | '\\' :: c :: s =>
      match escaped? c with
      | some d => put d (readLines false s)
      | none => if endsLine (c :: s) then readLines true (c :: s) else none
  | '\r' :: '\n' :: s =>
      if skipping then readLines true s else put '\r' (put '\n' (readLines false s))
  | c :: s =>
      if skipping && (c == ' ' || c == '\t' || c == '\n') then readLines true s
      else if (isControl c && c != '\n') || c == '\\' then none
      else put c (readLines false s)

def readLiteralLines : List Char → Option (List Char × List Char)
  | [] => none
  | '\'' :: '\'' :: '\'' :: '\'' :: '\'' :: s => some (['\'', '\''], s)
  | '\'' :: '\'' :: '\'' :: '\'' :: s => some (['\''], s)
  | '\'' :: '\'' :: '\'' :: s => some ([], s)
  | '\r' :: '\n' :: s => put '\r' (put '\n' (readLiteralLines s))
  | c :: s => if isControl c && c != '\n' then none else put c (readLiteralLines s)

def dropLineEnd : List Char → List Char
  | '\n' :: s => s
  | '\r' :: '\n' :: s => s
  | s => s

def read? : List Char → Option (List Char × List Char)
  | '"' :: '"' :: '"' :: s => readLines false (dropLineEnd s)
  | '\'' :: '\'' :: '\'' :: s => readLiteralLines (dropLineEnd s)
  | '"' :: s => readBasic s
  | '\'' :: s => readLiteral s
  | _ => none

def longestRun (c : Char) (run : Nat) : List Char → Nat
  | [] => run
  | d :: s => if d = c then longestRun c (run + 1) s else max run (longestRun c 0 s)

def hexDigit (n : Nat) : Char :=
  if n < 10 then Char.ofNat (48 + n) else Char.ofNat (55 + n)

def escape (c : Char) : List Char :=
  if c = '"' then ['\\', '"']
  else if c = '\\' then ['\\', '\\']
  else if c = '\x08' then ['\\', 'b']
  else if c = '\t' then ['\\', 't']
  else if c = '\n' then ['\\', 'n']
  else if c = '\x0c' then ['\\', 'f']
  else if c = '\r' then ['\\', 'r']
  else if isControl c then
    ['\\', 'u', '0', '0', hexDigit (c.toNat / 16), hexDigit (c.toNat % 16)]
  else [c]

/-- The written form of the inside of a string over several lines, behind a number of quotes that are not
escaped. Every third quote in a row is. -/
def escapeLines (quotes : Nat) : List Char → List Char
  | [] => []
  | c :: s =>
      if c = '"' then
        if quotes < 2 then '"' :: escapeLines (quotes + 1) s else '\\' :: '"' :: escapeLines 0 s
      else if c = '\n' then '\n' :: escapeLines 0 s
      else escape c ++ escapeLines 0 s

/-- Whether a text has a character that must be escaped. A tab is escaped where it can be, but does not
have to be. -/
def needsEscape (s : List Char) : Bool :=
  s.any fun c => isControl c && c != '\n'

def write (s : List Char) : List Char :=
  let lines := s.contains '\n'
  let lineEnd := if lines then ['\n'] else []
  let controls := needsEscape s
  let doubles := longestRun '"' 0 s
  let singles := longestRun '\'' 0 s
  -- The forms in the order in which they are preferred, each where it can hold the text.
  if !controls && !s.contains '\\' && doubles = 0 && !lines then
    '"' :: s.flatMap escape ++ ['"']
  else if !controls && singles = 0 && !lines then '\'' :: s ++ ['\'']
  else if !controls && !s.contains '\\' && doubles ≤ 2 then
    ['"', '"', '"'] ++ lineEnd ++ escapeLines 0 s ++ ['"', '"', '"']
  else if !controls && singles ≤ 2 then
    ['\'', '\'', '\''] ++ lineEnd ++ s ++ ['\'', '\'', '\'']
  else if lines then ['"', '"', '"', '\n'] ++ escapeLines 0 s ++ ['"', '"', '"']
  else '"' :: s.flatMap escape ++ ['"']

end ServerLink.Toml.Quoted
