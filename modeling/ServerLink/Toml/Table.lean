import ServerLink.Text.Split
import ServerLink.Toml.Basic
/-!
Tables as trees of keyed items, as the lines of a document build them up. A table may be defined once, by
its header, by the keys of paths, or by the headers of tables inside it; what a path or an inner header has
opened may still be given its own header or further paths, as its kind allows.
-/

namespace ServerLink.Toml

inductive TableKind where
  /-- By its own header; the number tells its place among the headers. -/
  | headed (place : Nat) (space : Space)
  | implied
  | dotted
  deriving DecidableEq, Repr, Inhabited

inductive Item where
  | value (space : Space) (v : Value)
  | table (kind : TableKind) (entries : List (Key × Item))
  | tables (elements : List (TableKind × List (Key × Item)))
  deriving Inhabited

abbrev Entries := List (Key × Item)

namespace Entries

def find? (name : String) : Entries → Option Item
  | [] => none
  | (k, i) :: es => if k.name = name then some i else find? name es

def replace (name : String) (item : Item) : Entries → Entries
  | [] => []
  | (k, i) :: es => if k.name = name then (k, item) :: es else (k, i) :: replace name item es

/-- Puts an item under a key, in the place of the one that is there, and otherwise at the end. -/
def set (key : Key) (item : Item) (es : Entries) : Entries :=
  if (find? key.name es).isSome then replace key.name item es else es ++ [(key, item)]

def remove (name : String) : Entries → Entries
  | [] => []
  | (k, i) :: es => if k.name = name then es else (k, i) :: remove name es

/-- Puts a value under a path into a table of a kind. A path leads through tables that paths or inner
headers have opened, and from then on counts as what has opened them; its last table is the one it
starts in or one of these. -/
def addValue (start : Bool) (kind : TableKind) (item : Item) : List Key → Entries → Option Entries
  | [], _ => none
  | [k], es =>
      -- A table that has a header takes values from its own lines only, one that a path has opened
      -- from paths only.
      if start = (kind == .dotted) ∨ (find? k.name es).isSome then none
      else some (es ++ [(k, item)])
  | k :: l :: path, es =>
      match find? k.name es with
      | none => do return es ++ [(k, .table .dotted (← addValue false .dotted item (l :: path) []))]
      | some (.value ..) => none
      | some (.table kind inside) =>
          match kind with
          | .headed .. => none
          | _ => do
              let inside ← addValue false .dotted item (l :: path) inside
              return replace k.name (.table .dotted inside) es
      | some (.tables elements) =>
          match elements.getLast? with
          | none => none
          | some (kind, inside) => do
              let inside ← addValue false kind item (l :: path) inside
              return replace k.name (.tables (elements.dropLast ++ [(kind, inside)])) es

/-- Changes the entries of the table at the end of a path, whose tables are all there. Of a row of tables
the last one counts. -/
def changeAt (f : TableKind → Entries → Option Entries) :
    List Key → TableKind → Entries → Option Entries
  | [], kind, es => f kind es
  | k :: path, _, es =>
      match find? k.name es with
      | some (.table kind inside) => do
          return replace k.name (.table kind (← changeAt f path kind inside)) es
      | some (.tables elements) =>
          match elements.getLast? with
          | none => none
          | some (kind, inside) => do
              let inside ← changeAt f path kind inside
              return replace k.name (.tables (elements.dropLast ++ [(kind, inside)])) es
      | _ => none

/-- Opens a table at the last key of a path. The tables on the way that are not there are opened too, and
of a row of tables the last one counts. -/
def openAt (f : Key → Entries → Option Entries) : List Key → Entries → Option Entries
  | [], _ => none
  | [k], es => f k es
  | k :: l :: path, es =>
      match find? k.name es with
      | none => do return es ++ [(k, .table .implied (← openAt f (l :: path) []))]
      | some (.value ..) => none
      | some (.table outer inside) => do
          return replace k.name (.table outer (← openAt f (l :: path) inside)) es
      | some (.tables elements) =>
          match elements.getLast? with
          | none => none
          | some (outer, inside) => do
              let inside ← openAt f (l :: path) inside
              return replace k.name (.tables (elements.dropLast ++ [(outer, inside)])) es

def openTable (kind : TableKind) : List Key → Entries → Option Entries :=
  openAt fun k es =>
    match find? k.name es with
    | none => some (es ++ [(k, .table kind [])])
    | some (.table .implied inside) => some (remove k.name es ++ [(k, .table kind inside)])
    | _ => none

def openElement (kind : TableKind) : List Key → Entries → Option Entries :=
  openAt fun k es =>
    match find? k.name es with
    | none => some (es ++ [(k, .tables [(kind, [])])])
    | some (.tables elements) => some (replace k.name (.tables (elements ++ [(kind, [])])) es)
    | _ => none

def root : TableKind := .headed 0 {}

/-- Adds what the lines say, of which `place` headers came before and the last one had the path
`current`. -/
def addLines (place : Nat) (current : List Key) : List Line → Entries → Option Entries
  | [], es => some es
  | .entry path space v :: lines, es => do
      let es ← changeAt (fun kind es => addValue true kind (.value space v) path es) current root es
      addLines place current lines es
  | .header false path space :: lines, es => do
      let es ← openTable (.headed (place + 1) space) path es
      addLines (place + 1) path lines es
  | .header true path space :: lines, es => do
      let es ← openElement (.headed (place + 1) space) path es
      addLines (place + 1) path lines es

def ofLines? (lines : List Line) : Option Entries :=
  addLines 0 [] lines []

mutual

def itemContent : Item → Content
  | .value _ v => v.content
  | .table _ entries => .table (contents entries)
  | .tables elements => .array (elementContents elements)

def contents : List (Key × Item) → List (String × Content)
  | [] => []
  | (k, i) :: es => (k.name, itemContent i) :: contents es

def elementContents : List (TableKind × List (Key × Item)) → List Content
  | [] => []
  | (_, es) :: elements => .table (contents es) :: elementContents elements

end

mutual

def itemLines (path : List Key) : Item → List Line
  | .value space v => [.entry path space v]
  | .table .dotted entries => ownLines path entries
  | _ => []

def ownLines (path : List Key) : List (Key × Item) → List Line
  | [] => []
  | (k, i) :: es => itemLines (path ++ [k]) i ++ ownLines path es

end

structure Section where
  place : Nat
  lines : List Line

def ownSection (isArray : Bool) (path : List Key) (kind : TableKind) (es : Entries) : List Section :=
  match kind with
  | .headed place space => [⟨place, .header isArray path space :: ownLines [] es⟩]
  | _ => []

mutual

def itemSections (path : List Key) : Item → List Section
  | .value .. => []
  | .table kind entries => ownSection false path kind entries ++ sections path entries
  | .tables elements => elementSections path elements

def sections (path : List Key) : List (Key × Item) → List Section
  | [] => []
  | (k, i) :: es => itemSections (path ++ [k]) i ++ sections path es

def elementSections (path : List Key) : List (TableKind × List (Key × Item)) → List Section
  | [] => []
  | (kind, es) :: elements =>
      ownSection true path kind es ++ sections path es ++ elementSections path elements

end

/-- The lines of a document: the values of the outermost table, and the sections in the order of their
places. -/
def lines (es : Entries) : List Line :=
  ownLines [] es ++
    ((sections [] es).mergeSort fun a b => a.place ≤ b.place).flatMap Section.lines

def writeInline (es : Entries) : List Char :=
  Text.joinWith ',' ((ownLines [] es).map Line.body)

end Entries

end ServerLink.Toml
