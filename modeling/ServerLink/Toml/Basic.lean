namespace ServerLink.Toml

/-- What a value means. Of a floating-point number, a date and a time nothing but the word is known. -/
inductive Content where
  | string (s : String)
  | integer (n : Int)
  | float (word : List Char)
  | boolean (b : Bool)
  | time (word : List Char)
  | array (items : List Content)
  | table (entries : List (String × Content))
  deriving Repr, Inhabited

mutual

def Content.allIntegers (p : Int → Bool) : Content → Bool
  | .integer n => p n
  | .array items => itemsAllIntegers p items
  | .table entries => entriesAllIntegers p entries
  | _ => true

def itemsAllIntegers (p : Int → Bool) : List Content → Bool
  | [] => true
  | c :: cs => c.allIntegers p && itemsAllIntegers p cs

def entriesAllIntegers (p : Int → Bool) : List (String × Content) → Bool
  | [] => true
  | (_, c) :: es => c.allIntegers p && entriesAllIntegers p es

end

structure Value where
  content : Content
  written : List Char
  deriving Repr, Inhabited

structure Space where
  before : List Char := []
  after : List Char := []
  deriving DecidableEq, Repr, Inhabited

/-- A key: its name, how it is written, the space around it where other keys stand beside it in a path, and
the space around a path that it ends. -/
structure Key where
  name : String
  written : List Char
  inner : Space := {}
  outer : Space := { after := [' '] }
  deriving DecidableEq, Repr, Inhabited

/-- The keys of a path behind the first one, and the space behind the path. -/
def writeKeys (k : Key) : List Key → List Char
  | [] => k.written ++ k.outer.after
  | l :: ks => k.written ++ k.inner.after ++ '.' :: l.inner.before ++ writeKeys l ks

def writePath : List Key → List Char
  | [] => []
  | k :: ks => ((k :: ks).getLastD k).outer.before ++ writeKeys k ks

/-- A line that says something, with all that stands before it. -/
inductive Line where
  | entry (path : List Key) (space : Space) (value : Value)
  | header (isArray : Bool) (path : List Key) (space : Space)
  deriving Repr, Inhabited

def Line.body : Line → List Char
  | .entry path space value =>
      writePath path ++ '=' :: space.before ++ value.written ++ space.after
  | .header false path space => space.before ++ '[' :: writePath path ++ ']' :: space.after
  | .header true path space =>
      space.before ++ '[' :: '[' :: writePath path ++ ']' :: ']' :: space.after

def Line.write (l : Line) : List Char :=
  l.body ++ ['\n']

end ServerLink.Toml
