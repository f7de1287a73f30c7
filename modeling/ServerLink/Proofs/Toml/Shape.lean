import Mathlib.Logic.Function.Basic
import ServerLink.Proofs.Toml.Build
import ServerLink.Proofs.Toml.Sense

/-!
The shapes of trees: what stands under each name, without the order of the entries and the way they are
written. Each step by which a line builds up a tree is a step on its shape.
-/

namespace ServerLink.Toml

open Function (update)

/-- How a table has been opened. -/
inductive Origin where
  | header
  | inner
  | path
  deriving DecidableEq

/-- What stands under a name. -/
inductive Shape where
  | value (sense : Sense)
  | table (origin : Origin) (entryOf : String → Option Shape)
  | tables (elements : List (Origin × (String → Option Shape)))

/-- What stands under each name of a table. -/
abbrev Shapes := String → Option Shape

mutual

def Shape.sense : Shape → Sense
  | .value sense => sense
  | .table _ entryOf => .table fun name => shapeSense? (entryOf name)
  | .tables elements => .array (elementSenses elements)

def shapeSense? : Option Shape → Option Sense
  | none => none
  | some i => some i.sense

def elementSenses : List (Origin × (String → Option Shape)) → List Sense
  | [] => []
  | (_, entryOf) :: elements => .table (fun name => shapeSense? (entryOf name)) :: elementSenses elements

end

def Shapes.empty : Shapes := fun _ => none

def TableKind.origin : TableKind → Origin
  | .headed .. => .header
  | .implied => .inner
  | .dotted => .path

namespace Entries

mutual

def itemShape : Item → Shape
  | .value _ v => .value v.content.sense
  | .table kind es => .table kind.origin (shapes es)
  | .tables elements => .tables (elementShapes elements)

/-- The shape of what stands under a name of a table. -/
def shapes : List (Key × Item) → String → Option Shape
  | [], _ => none
  | (k, i) :: es, name => if k.name = name then some (itemShape i) else shapes es name

def elementShapes : List (TableKind × List (Key × Item)) → List (Origin × (String → Option Shape))
  | [] => []
  | (kind, es) :: elements => (kind.origin, shapes es) :: elementShapes elements

end

theorem shapes_eq_map (es : Entries) (name : String) :
    shapes es name = (find? name es).map itemShape := by
  induction es with
  | nil => rfl
  | cons e es ih =>
      obtain ⟨k, i⟩ := e
      rw [shapes, find?_cons, ih]
      split <;> rfl

mutual

theorem sense_itemShape : ∀ i : Item, (itemShape i).sense = (itemContent i).sense
  | .value .. => rfl
  | .table _ es => congrArg Sense.table (funext (sense_shapes es))
  | .tables elements => congrArg Sense.array (sense_elementShapes elements)

theorem sense_shapes : ∀ (es : List (Key × Item)) (name : String),
    shapeSense? (shapes es name) = senses (contents es) name
  | [], _ => rfl
  | (k, i) :: es, name => by
      rw [shapes, contents, senses, ← sense_shapes es, ← sense_itemShape i]
      split <;> rfl

theorem sense_elementShapes : ∀ elements : List (TableKind × List (Key × Item)),
    elementSenses (elementShapes elements) = itemSenses (elementContents elements)
  | [] => rfl
  | (_, es) :: elements => by
      rw [elementShapes, elementSenses, elementContents, itemSenses, sense_elementShapes elements,
        Content.sense, funext (sense_shapes es)]

end

theorem elementShapes_append (elements more : List (TableKind × Entries)) :
    elementShapes (elements ++ more) = elementShapes elements ++ elementShapes more := by
  induction elements with
  | nil => rfl
  | cons e elements ih =>
      obtain ⟨kind, es⟩ := e
      simp [elementShapes, ih]

theorem shapes_concat {es : Entries} {k : Key} {i : Item} (hnone : find? k.name es = none) :
    shapes (es ++ [(k, i)]) = update (shapes es) k.name (some (itemShape i)) := by
  funext name
  by_cases hname : name = k.name
  · subst hname
    simp [shapes_eq_map, find?_append, hnone, find?_cons]
  · simp [shapes_eq_map, find?_append, find?_cons, hname, Ne.symm hname]

theorem shapes_replace {es : Entries} {name : String} {old i : Item}
    (hfind : find? name es = some old) :
    shapes (replace name i es) = update (shapes es) name (some (itemShape i)) := by
  funext other
  by_cases hother : other = name
  · subst hother
    simp [shapes_eq_map, find?_replace, hfind]
  · simp [shapes_eq_map, find?_replace, hother]

/-- A table that is taken out and put in again at the end, with another kind. -/
theorem shapes_remove_concat {es : Entries} {k : Key} {i : Item} (hnodup : (names es).Nodup) :
    shapes (remove k.name es ++ [(k, i)]) = update (shapes es) k.name (some (itemShape i)) := by
  rw [shapes_concat (find?_eq_none_iff.mpr (not_mem_names_remove hnodup))]
  funext name
  by_cases hname : name = k.name
  · simp [hname]
  · simp [hname, shapes_eq_map, find?_remove_of_ne hname]

end Entries

namespace Shape

/-- Changes the entries of a table, and of a row those of its last table. Where nothing stands, a header
creates a table. -/
def into (create : Bool) (f : Origin → Shapes → Option Shapes) : Option Shape → Option Shape
  | none => if create then (f .inner Shapes.empty).map (.table .inner) else none
  | some (.value _) => none
  | some (.table origin s) => (f origin s).map (.table origin)
  | some (.tables elements) =>
      match elements.getLast? with
      | none => none
      | some (origin, s) => (f origin s).map fun s => .tables (elements.dropLast ++ [(origin, s)])

/-- Changes what stands at the end of a path. -/
def along (create : Bool) (leaf : Option Shape → Option Shape) :
    List String → Option Shape → Option Shape
  | [], i => leaf i
  | name :: path, i =>
      into create (fun _ s => (along create leaf path (s name)).map fun j => update s name (some j)) i

def openTable : Option Shape → Option Shape
  | none => some (.table .header Shapes.empty)
  | some (.table .inner s) => some (.table .header s)
  | _ => none

def openElement : Option Shape → Option Shape
  | none => some (.tables [(.header, Shapes.empty)])
  | some (.tables elements) => some (.tables (elements ++ [(.header, Shapes.empty)]))
  | _ => none

def opening (isArray : Bool) : Option Shape → Option Shape :=
  if isArray then openElement else openTable

/-- Changes the entries of a table that a path leads through. -/
def through (f : Origin → Shapes → Option Shapes) : Option Shape → Option Shape
  | none => (f .path Shapes.empty).map (.table .path)
  | some (.value _) => none
  | some (.table .header _) => none
  | some (.table _ s) => (f .path s).map (.table .path)
  | some (.tables elements) =>
      match elements.getLast? with
      | none => none
      | some (origin, s) => (f origin s).map fun s => .tables (elements.dropLast ++ [(origin, s)])

/-- Adds a value under a path; a table that may not take it itself may take it further inside. -/
def add (sense : Sense) : Bool → List String → Shapes → Option Shapes
  | _, [], _ => none
  | allowed, [name], s =>
      if allowed && (s name).isNone then some (update s name (some (.value sense))) else none
  | _, name :: l :: path, s =>
      (through (fun origin s => add sense (origin == .path) (l :: path) s) (s name)).map fun j =>
        update s name (some j)

end Shape

/-- What a line says, without the way it is written. -/
inductive Gist where
  | entry (path : List String) (sense : Sense)
  | header (isArray : Bool) (path : List String)

def Line.gist : Line → Gist
  | .entry path _ v => .entry (path.map (·.name)) v.content.sense
  | .header isArray path _ => .header isArray (path.map (·.name))

/-- What lines make of a tree behind a header with the path `current`. -/
def Shape.run (current : List String) : List Gist → Shape → Option Shape
  | [], i => some i
  | .entry path sense :: gists, i =>
      (along false (into false fun origin s => add sense (origin != .path) path s) current
        (some i)).bind (run current gists)
  | .header isArray path :: gists, i =>
      (along true (opening isArray) path (some i)).bind (run path gists)

namespace Entries

theorem shapes_nil : shapes [] = Shapes.empty := rfl

theorem origin_beq (kind : TableKind) : (kind.origin == .path) = (kind == .dotted) := by
  cases kind <;> rfl

theorem getLast?_elementShapes {elements : List (TableKind × Entries)} {kind : TableKind}
    {es : Entries} (hlast : elements.getLast? = some (kind, es)) :
    (elementShapes elements).getLast? = some (kind.origin, shapes es) := by
  obtain ⟨elements, rfl⟩ := List.getLast?_eq_some_iff.mp hlast
  rw [elementShapes_append]
  exact List.getLast?_concat

theorem elementShapes_last {elements : List (TableKind × Entries)} {kind : TableKind}
    {es : Entries} (hlast : elements.getLast? = some (kind, es)) (es' : Entries) :
    elementShapes (elements.dropLast ++ [(kind, es')]) =
      (elementShapes elements).dropLast ++ [(kind.origin, shapes es')] := by
  obtain ⟨elements, rfl⟩ := List.getLast?_eq_some_iff.mp hlast
  rw [List.dropLast_concat, elementShapes_append, elementShapes_append]
  simp [elementShapes]

theorem addValue_shapes (start : Bool) (kind : TableKind) (space : Space) (v : Value)
    (path : List Key) (es : Entries) :
    (addValue start kind (.value space v) path es).map shapes =
      Shape.add v.content.sense (start != (kind == .dotted)) (path.map (·.name)) (shapes es) := by
  -- Both sides descend by one key at a time, and refuse in the same cases.
  fun_induction addValue start kind (.value space v) path es with
  | case1 => rfl
  | case2 start kind k es h =>
      have hrefused : ((start != (kind == .dotted)) && (shapes es k.name).isNone) = false := by
        rw [shapes_eq_map, Option.isNone_map]
        rcases h with h | h
        · simp [h]
        · simp [Option.isNone_eq_false_iff.mpr h]
      rw [List.map_singleton, Shape.add, hrefused]
      rfl
  | case3 start kind k es h =>
      obtain ⟨hallowed, hnone⟩ := not_or.mp h
      have hnone : find? k.name es = none := by simpa using hnone
      rw [Option.map_some, shapes_concat hnone, List.map_singleton, Shape.add, shapes_eq_map, hnone,
        if_pos (by simpa using hallowed)]
      rfl
  | case4 start kind k l path es hnone ih =>
      have hinner : Shape.add v.content.sense (Origin.path == .path) ((l :: path).map (·.name))
          Shapes.empty = _ := ih.symm
      rw [List.map_cons, List.map_cons, Shape.add, shapes_eq_map, hnone, Option.map_none, Shape.through,
        ← List.map_cons, hinner]
      cases addValue false .dotted (.value space v) (l :: path) [] with
      | none => rfl
      | some inside => exact congrArg some (shapes_concat hnone)
  | case5 start kind k l path es space v hfind =>
      rw [List.map_cons, List.map_cons, Shape.add, shapes_eq_map, hfind]
      rfl
  | case6 start kind k l path es place space inside hfind =>
      rw [List.map_cons, List.map_cons, Shape.add, shapes_eq_map, hfind]
      rfl
  | case7 start kind k l path es old inside hfind hkind ih =>
      have hinner : Shape.add v.content.sense (Origin.path == .path) ((l :: path).map (·.name))
          (shapes inside) = _ := ih.symm
      have hthrough (f : Origin → Shapes → Option Shapes) :
          Shape.through f (some (.table old.origin (shapes inside))) =
            (f .path (shapes inside)).map (.table .path) := by
        cases old with
        | headed place space => exact absurd rfl (hkind place space)
        | implied => rfl
        | dotted => rfl
      rw [List.map_cons, List.map_cons, Shape.add, shapes_eq_map, hfind, Option.map_some, itemShape,
        hthrough, ← List.map_cons, hinner]
      cases addValue false .dotted (.value space v) (l :: path) inside with
      | none => rfl
      | some inside' => exact congrArg some (shapes_replace hfind)
  | case8 start kind k l path es elements hfind hnone =>
      obtain rfl := List.getLast?_eq_none_iff.mp hnone
      rw [List.map_cons, List.map_cons, Shape.add, shapes_eq_map, hfind]
      rfl
  | case9 start kind k l path es elements hfind old inside hlast ih =>
      rw [Bool.false_bne, ← origin_beq] at ih
      rw [List.map_cons, List.map_cons, Shape.add, shapes_eq_map, hfind, Option.map_some, itemShape,
        Shape.through, getLast?_elementShapes hlast]
      simp only [← List.map_cons, ← ih]
      cases addValue false old (.value space v) (l :: path) inside with
      | none => rfl
      | some inside' =>
          refine congrArg some ((shapes_replace hfind).trans ?_)
          rw [itemShape, elementShapes_last hlast]

/-- Where a change leads to does not depend on the way into the table. -/
theorem along_into (create : Bool) (f : Origin → Shapes → Option Shapes) (path : List String) :
    ∃ g, ∀ i, Shape.along create (Shape.into create f) path i = Shape.into create g i := by
  cases path with
  | nil => exact ⟨f, fun _ => rfl⟩
  | cons name path => exact ⟨_, fun _ => rfl⟩

theorem changeAt_shape {f : TableKind → Entries → Option Entries}
    {g : Origin → Shapes → Option Shapes}
    (hf : ∀ kind es, (f kind es).map shapes = g kind.origin (shapes es))
    (path : List Key) (kind : TableKind) (es : Entries) :
    (changeAt f path kind es).map (fun es => Shape.table kind.origin (shapes es)) =
      Shape.along false (Shape.into false g) (path.map (·.name))
        (some (.table kind.origin (shapes es))) := by
  fun_induction changeAt f path kind es with
  | case1 kind es =>
      rw [List.map_nil, Shape.along, Shape.into, ← hf, Option.map_map]
      rfl
  | case2 k path old es kind inside hfind ih =>
      rw [List.map_cons, Shape.along, Shape.into, shapes_eq_map, hfind, Option.map_some, itemShape, ← ih]
      cases changeAt f path kind inside with
      | none => rfl
      | some inside' => exact congrArg (some ∘ Shape.table _) (shapes_replace hfind)
  | case3 k path old es elements hfind hnone =>
      obtain rfl := List.getLast?_eq_none_iff.mp hnone
      obtain ⟨h, hh⟩ := along_into false g (path.map (·.name))
      rw [List.map_cons, Shape.along, Shape.into, shapes_eq_map, hfind, Option.map_some, hh]
      rfl
  | case4 k path old es elements hfind kind inside hlast ih =>
      obtain ⟨h, hh⟩ := along_into false g (path.map (·.name))
      rw [hh, Shape.into] at ih
      rw [List.map_cons, Shape.along, Shape.into, shapes_eq_map, hfind, Option.map_some,
        hh, itemShape, Shape.into, getLast?_elementShapes hlast]
      cases hinside : changeAt f path kind inside with
      | none =>
          rw [hinside] at ih
          simp [Option.map_eq_none_iff.mp ih.symm]
      | some inside' =>
          rw [hinside] at ih
          obtain ⟨s, hs, heq⟩ := Option.map_eq_some_iff.mp ih.symm
          cases heq
          simp [hs, shapes_replace hfind, itemShape, elementShapes_last hlast]
  | case5 k path old es htable hrow =>
      rw [List.map_cons, Shape.along, Shape.into, shapes_eq_map]
      obtain ⟨h, hh⟩ := along_into false g (path.map (·.name))
      rw [hh]
      cases hfind : find? k.name es with
      | none => rfl
      | some i =>
          cases i with
          | value => rfl
          | table kind inside => exact absurd hfind (htable kind inside)
          | tables elements => exact absurd hfind (hrow elements)

/-- Opening at the end of a path is a step on the shape, when it is so at the last key. -/
theorem openAt_shapes {m : Manner} {f : Key → Entries → Option Entries}
    {leaf : Option Shape → Option Shape}
    (hf : ∀ k es, (names es).Nodup → (f k es).map shapes =
      (leaf (shapes es k.name)).map fun j => update (shapes es) k.name (some j))
    (k : Key) (path : List Key) {own depth : Nat} {owned : Bool} {es : Entries}
    (hes : Sound m own depth owned es) :
    (openAt f (k :: path) es).map shapes =
      (Shape.along true leaf (path.map (·.name)) (shapes es k.name)).map fun j =>
        update (shapes es) k.name (some j) := by
  induction path generalizing k es own depth owned with
  | nil => exact hf k es hes.nodup
  | cons l path ih =>
      rw [openAt, List.map_cons, Shape.along, shapes_eq_map]
      cases hfind : find? k.name es with
      | none =>
          have hnew : Sound m own depth owned [] := sound_nil
          have hinner := ih l hnew
          rw [shapes_nil] at hinner
          rw [Option.map_none, Shape.into, if_pos rfl, ← hinner]
          cases openAt f (l :: path) [] with
          | none => rfl
          | some inside => exact congrArg some (shapes_concat hfind)
      | some i =>
          cases i with
          | value => rfl
          | table kind inside =>
              obtain ⟨own', owned', -, hsound⟩ := hes.of_table hfind
              rw [Option.map_some, itemShape, Shape.into, ← ih l hsound]
              dsimp only
              cases openAt f (l :: path) inside with
              | none => rfl
              | some inside' => exact congrArg some (shapes_replace hfind)
          | tables elements =>
              cases hlast : elements.getLast? with
              | none =>
                  obtain rfl := List.getLast?_eq_none_iff.mp hlast
                  rfl
              | some e =>
                  obtain ⟨kind, inside⟩ := e
                  rw [Option.map_some, itemShape, Shape.into, getLast?_elementShapes hlast]
                  dsimp only
                  rw [hlast, ← ih l (hes.of_last hfind hlast)]
                  dsimp only
                  cases openAt f (l :: path) inside with
                  | none => rfl
                  | some inside' =>
                      refine congrArg some ((shapes_replace hfind).trans ?_)
                      rw [itemShape, elementShapes_last hlast]

def rootShape (es : Entries) : Shape :=
  .table .header (shapes es)

theorem openAt_rootShape {m : Manner} {f : Key → Entries → Option Entries}
    {leaf : Option Shape → Option Shape}
    (hf : ∀ k es, (names es).Nodup → (f k es).map shapes =
      (leaf (shapes es k.name)).map fun j => update (shapes es) k.name (some j))
    (hleaf : ∀ s, leaf (some (.table .header s)) = none) (path : List Key) {es : Entries}
    (hes : Sound m 0 0 true es) :
    (openAt f path es).map rootShape =
      Shape.along true leaf (path.map (·.name)) (some (rootShape es)) := by
  cases path with
  | nil => exact (hleaf _).symm
  | cons k path =>
      rw [List.map_cons, Shape.along, rootShape, Shape.into, ← openAt_shapes hf k path hes,
        Option.map_map]
      rfl

theorem openTable_rootShape {m : Manner} (place : Nat) (space : Space) (path : List Key)
    {es : Entries} (hes : Sound m 0 0 true es) :
    (openTable (.headed place space) path es).map rootShape =
      Shape.along true Shape.openTable (path.map (·.name)) (some (rootShape es)) := by
  refine openAt_rootShape (fun k es hnodup => ?_) (fun _ => rfl) path hes
  rw [shapes_eq_map]
  cases hfind : find? k.name es with
  | none => exact congrArg some (shapes_concat hfind)
  | some i =>
      cases i with
      | table kind inside =>
          cases kind with
          | implied => exact congrArg some (shapes_remove_concat hnodup)
          | _ => rfl
      | _ => rfl

theorem openElement_rootShape {m : Manner} (place : Nat) (space : Space) (path : List Key)
    {es : Entries} (hes : Sound m 0 0 true es) :
    (openElement (.headed place space) path es).map rootShape =
      Shape.along true Shape.openElement (path.map (·.name)) (some (rootShape es)) := by
  refine openAt_rootShape (fun k es _ => ?_) (fun _ => rfl) path hes
  rw [shapes_eq_map]
  cases hfind : find? k.name es with
  | none => exact congrArg some (shapes_concat hfind)
  | some i =>
      cases i with
      | tables elements =>
          refine congrArg some ((shapes_replace hfind).trans ?_)
          rw [itemShape, elementShapes_append]
          rfl
      | table kind inside => cases kind <;> rfl
      | _ => rfl

theorem map_bind_of_map {x : Option Entries} {f : Entries → Option Entries} {y : Option Shape}
    {g : Shape → Option Shape} (hx : x.map rootShape = y)
    (hf : ∀ es, x = some es → (f es).map rootShape = g (rootShape es)) :
    (x.bind f).map rootShape = y.bind g := by
  subst hx
  cases x with
  | none => rfl
  | some es => exact hf es rfl

/-- Lines that fit change the shape of a tree as what they say does. -/
theorem addLines_rootShape {m : Manner} {n : Nat} {current : List Key} {lines : List Line}
    {es : Entries} (hes : Standing m n current es) (hlines : ∀ l ∈ lines, l.Fits m) :
    (addLines n current lines es).map rootShape =
      Shape.run (current.map (·.name)) (lines.map Line.gist) (rootShape es) := by
  fun_induction addLines n current lines es with
  | case1 => rfl
  | case2 n current path space v lines es ih =>
      obtain ⟨hline, hlines⟩ := List.forall_mem_cons.mp hlines
      refine map_bind_of_map (changeAt_shape (fun kind es => ?_) current root es)
        fun es' h => ih es' (hes.entry h hline) hlines
      rw [addValue_shapes, Bool.true_bne, ← origin_beq]
      rfl
  | case3 n current path space lines es ih =>
      obtain ⟨hline, hlines⟩ := List.forall_mem_cons.mp hlines
      exact map_bind_of_map (openTable_rootShape _ space path hes.sound)
        fun es' h => ih es' (hes.table h hline) hlines
  | case4 n current path space lines es ih =>
      obtain ⟨hline, hlines⟩ := List.forall_mem_cons.mp hlines
      exact map_bind_of_map (openElement_rootShape _ space path hes.sound)
        fun es' h => ih es' (hes.element h hline) hlines

end Entries

end ServerLink.Toml
