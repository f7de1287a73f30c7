import ServerLink.Toml.Quoted
import ServerLink.Toml.Scalar
import ServerLink.Toml.Table

namespace ServerLink.Toml

def isLineSpace (c : Char) : Bool :=
  c == ' ' || c == '\t'

def splitSpace (s : List Char) : List Char × List Char :=
  s.span isLineSpace

/-- Reads space, comments and ends of lines, and gives what stands behind them. Carriage returns are not
kept. -/
def readGap (comment : Bool) : List Char → Option (List Char × List Char)
  | [] => some ([], [])
  | '\n' :: s => Quoted.put '\n' (readGap false s)
  | '\r' :: '\n' :: s => Quoted.put '\n' (readGap false s)
  | c :: s =>
      if comment then if Quoted.isControl c then none else Quoted.put c (readGap true s)
      else if isLineSpace c then Quoted.put c (readGap false s)
      else if c = '#' then Quoted.put c (readGap true s)
      else some ([], c :: s)

/-- Reads the rest of a line that says no more, and gives it and the text behind the line. -/
def readLineEnd (comment : Bool) : List Char → Option (List Char × List Char)
  | [] => some ([], [])
  | '\n' :: s => some ([], s)
  | '\r' :: '\n' :: s => some ([], s)
  | c :: s =>
      if comment then if Quoted.isControl c then none else Quoted.put c (readLineEnd true s)
      else if isLineSpace c then Quoted.put c (readLineEnd false s)
      else if c = '#' then Quoted.put c (readLineEnd true s)
      else none

def writtenBefore (s rest : List Char) : List Char :=
  s.take (s.length - rest.length)

def isBareChar (c : Char) : Bool :=
  c.isAlphanum || c == '_' || c == '-'

def readName (s : List Char) : Option ((String × List Char) × List Char) :=
  match s with
  | '"' :: r => (Quoted.readBasic r).map fun p => ((String.ofList p.1, writtenBefore s p.2), p.2)
  | '\'' :: r => (Quoted.readLiteral r).map fun p => ((String.ofList p.1, writtenBefore s p.2), p.2)
  | _ =>
      let (bare, rest) := s.span isBareChar
      if bare.isEmpty then none else some ((String.ofList bare, bare), rest)

abbrev Shorter (s : List Char) : Type :=
  { r : List Char // r.length < s.length }

def Shorter.of? (s r : List Char) : Option (Shorter s) :=
  if h : r.length < s.length then some ⟨r, h⟩ else none

def readKeys (s : List Char) : Option (List Key × Shorter s) := do
  let (before, r) := splitSpace s
  let ((name, written), r) ← readName r
  let (after, r) := splitSpace r
  let rest ← Shorter.of? s r
  let key : Key := { name, written, inner := ⟨before, after⟩ }
  match h : rest.1 with
  | '.' :: r =>
      let (keys, t) ← readKeys r
      return (key :: keys, ⟨t.1, by
        have hs := rest.2
        have ht := t.2
        simp only [h, List.length_cons] at hs
        omega⟩)
  | _ => return ([key], rest)
termination_by s.length
decreasing_by
  have hs := rest.2
  simp only [h, List.length_cons] at hs
  omega

def changeLast {α : Type} (f : α → α) : List α → List α
  | [] => []
  | [a] => [f a]
  | a :: b :: as => a :: changeLast f (b :: as)

/-- The keys of a path whose outermost space belongs to its last key. -/
def settlePath (keys : List Key) (before : List Char) : List Key :=
  let first := (keys.head?.map (·.inner.before)).getD []
  let keys := match keys with
    | k :: ks => { k with inner := { k.inner with before := [] } } :: ks
    | [] => []
  changeLast (fun k =>
    { k with
      inner := { k.inner with after := [] }
      outer := ⟨before ++ first, k.inner.after⟩ }) keys

/-- The greatest depth to which arrays and tables are nested, and the greatest length of a path. -/
def maxDepth : Nat := 80

def readPath (before s : List Char) : Option (List Key × Shorter s) := do
  let (keys, rest) ← readKeys s
  if maxDepth < keys.length then none else return (settlePath keys before, rest)

abbrev ValueReader :=
  (s : List Char) → Option (Value × Shorter s)

def readElements (readValue : ValueReader) (s : List Char) :
    Option ((List Content × List Char) × List Char) := do
  let (gap, r) ← readGap false s
  match r with
  | ']' :: r => return (([], gap ++ [']']), r)
  | _ =>
      let (v, t) ← readValue r
      let (gap', r) ← readGap false t.1
      match r with
      | ']' :: r => return (([v.content], gap ++ v.written ++ gap' ++ [']']), r)
      | ',' :: r =>
          let rest' ← Shorter.of? s r
          let ((contents, written), r) ← readElements readValue rest'.1
          return ((v.content :: contents, gap ++ v.written ++ gap' ++ ',' :: written), r)
      | _ => none
termination_by s.length
decreasing_by exact rest'.2

def readEntries (readValue : ValueReader) (s : List Char) :
    Option ((List Line × List Char) × List Char) := do
  let (gap, r) ← readGap false s
  match r with
  | '\x7d' :: r => return (([], gap), r)
  | _ =>
      let (path, t) ← readPath gap r
      match t.1 with
      | '=' :: r =>
          let (before, r) := splitSpace r
          let (v, t) ← readValue r
          let (after, r) ← readGap false t.1
          let line := Line.entry path ⟨before, after⟩ v
          match r with
          | '\x7d' :: r => return (([line], []), r)
          | ',' :: r =>
              let rest ← Shorter.of? s r
              let ((lines, last), r) ← readEntries readValue rest.1
              return ((line :: lines, if lines.isEmpty then ',' :: last else last), r)
          | _ => none
      | _ => none
termination_by s.length
decreasing_by exact rest.2

/-- Reads a value in which arrays and tables are nested up to a depth. -/
def readValue (depth : Nat) (s : List Char) : Option (Value × Shorter s) :=
  match s with
  | '"' :: _ | '\'' :: _ => do
      let (text, rest) ← Quoted.read? s
      return (⟨.string (String.ofList text), writtenBefore s rest⟩, ← Shorter.of? _ rest)
  | '[' :: r =>
      match depth with
      | 0 => none
      | depth + 1 => do
          let ((contents, written), rest) ← readElements (readValue depth) r
          return (⟨.array contents, '[' :: written⟩, ← Shorter.of? _ rest)
  | '\x7b' :: r =>
      match depth with
      | 0 => none
      | depth + 1 => do
          let ((lines, last), rest) ← readEntries (readValue depth) r
          let entries ← Entries.ofLines? lines
          let written := '\x7b' :: Entries.writeInline entries ++ last ++ ['\x7d']
          return (⟨.table (Entries.contents entries), written⟩, ← Shorter.of? _ rest)
  | _ => do
      let (v, rest) ← Scalar.read? s
      return (v, ← Shorter.of? _ rest)

def readBrackets (isArray : Bool) : List Char → Option (List Char)
  | ']' :: s => if isArray then (match s with | ']' :: s => some s | _ => none) else some s
  | _ => none

def readHeader (isArray : Bool) (before s : List Char) : Option (Line × List Char) := do
  let (path, rest) ← readPath [] s
  let r ← readBrackets isArray rest.1
  let (after, r) ← readLineEnd false r
  return (.header isArray path ⟨before, after⟩, r)

def readEntry (before s : List Char) : Option (Line × List Char) := do
  let (path, rest) ← readPath before s
  match rest.1 with
  | '=' :: r =>
      let (space, r) := splitSpace r
      let (v, rest) ← readValue maxDepth r
      let (after, r) ← readLineEnd false rest.1
      return (.entry path ⟨space, after⟩ v, r)
  | _ => none

def readLine (before s : List Char) : Option (Line × List Char) :=
  match s with
  | '[' :: '[' :: r => readHeader true before r
  | '[' :: r => readHeader false before r
  | _ => readEntry before s

def readLines (s : List Char) : Option (List Line × List Char) := do
  let (gap, r) ← readGap false s
  match r with
  | [] => return ([], gap)
  | _ =>
      let (line, t) ← readLine gap r
      let rest ← Shorter.of? s t
      let (lines, last) ← readLines rest.1
      return (line :: lines, last)
termination_by s.length
decreasing_by exact rest.2

end ServerLink.Toml
