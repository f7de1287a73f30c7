import ServerLink.Proofs.Toml.Shape

/-!
The shape of a tree while its lines are read again: what stands there once all headers below a place have
been read. A table whose header is still to come stands there as soon as a header inside it has been read.
-/

namespace ServerLink.Toml.Entries

open Function (update)

/-- Whether the values of a table have been read. Below a path they are read with those of the table where
the path begins. -/
def liveIn (t : Nat) (live : Bool) : TableKind → Bool
  | .headed place _ => place < t
  | .implied => false
  | .dotted => live

/-- How a table stands there, if it does. -/
def standsAs (t : Nat) (live : Bool) (kind : TableKind) (es : Entries) : Option Origin :=
  if liveIn t live kind = true ∧ (kind = .dotted → ownLines [] es ≠ []) then some kind.origin
  else if ∃ p ∈ places es, p < t then some .inner
  else none

/-- A row that stands there with its first table. -/
def rowShape : List (Origin × Shapes) → Option Shape
  | [] => none
  | elements => some (.tables elements)

mutual

/-- The shape of an item when the headers below a place have been read. -/
def itemStage (t : Nat) (live : Bool) : Item → Option Shape
  | .value _ v => if live then some (.value v.content.sense) else none
  | .table kind es =>
      (standsAs t live kind es).map fun origin => .table origin (stage t (liveIn t live kind) es)
  | .tables elements => rowShape (rowStage t elements)

/-- The shape of what stands under a name when the headers below a place have been read. -/
def stage (t : Nat) (live : Bool) : List (Key × Item) → String → Option Shape
  | [], _ => none
  | (k, i) :: es, name => if k.name = name then itemStage t live i else stage t live es name

def rowStage (t : Nat) : List (TableKind × List (Key × Item)) → List (Origin × (String → Option Shape))
  | [] => []
  | (kind, es) :: elements =>
      if liveIn t false kind then (kind.origin, stage t true es) :: rowStage t elements else []

end

variable {m : Manner} {own depth : Nat} {owned : Bool} {t u : Nat}

theorem stage_of_not_mem {live : Bool} {es : Entries} {name : String} (h : name ∉ names es) :
    stage t live es name = none := by
  induction es with
  | nil => rfl
  | cons e es ih =>
      obtain ⟨k, i⟩ := e
      rw [names_cons, List.mem_cons, not_or] at h
      rw [stage, if_neg (Ne.symm h.1), ih h.2]

theorem liveIn_congr {kind : TableKind} (h : ∀ p ∈ kindPlaces kind, p < t ↔ p < u) (live : Bool) :
    liveIn t live kind = liveIn u live kind := by
  cases kind with
  | headed place space => simpa [liveIn] using h place (List.mem_singleton.mpr rfl)
  | _ => rfl

theorem standsAs_congr {kind : TableKind} {es : Entries}
    (hkind : ∀ p ∈ kindPlaces kind, p < t ↔ p < u) (h : ∀ p ∈ places es, p < t ↔ p < u)
    (live : Bool) : standsAs t live kind es = standsAs u live kind es := by
  have hseen : (∃ p ∈ places es, p < t) ↔ ∃ p ∈ places es, p < u :=
    exists_congr fun p => and_congr_right (h p)
  simp only [standsAs, liveIn_congr hkind live, hseen]

mutual

theorem itemStage_congr : ∀ {i : Item} (live : Bool), (∀ p ∈ itemPlaces i, p < t ↔ p < u) →
    itemStage t live i = itemStage u live i
  | .value .., _, _ => rfl
  | .table kind es, live, h => by
      obtain ⟨hkind, hes⟩ := List.forall_mem_append.mp h
      rw [itemStage, itemStage, standsAs_congr hkind hes live, liveIn_congr hkind live,
        stage_congr _ hes]
  | .tables elements, _, h => by
      rw [itemStage, itemStage, rowStage_congr h]

theorem stage_congr : ∀ {es : List (Key × Item)} (live : Bool), (∀ p ∈ places es, p < t ↔ p < u) →
    stage t live es = stage u live es
  | [], _, _ => rfl
  | (k, i) :: es, live, h => by
      obtain ⟨hi, hes⟩ := List.forall_mem_append.mp h
      funext name
      rw [stage, stage, itemStage_congr live hi, stage_congr live hes]

theorem rowStage_congr : ∀ {elements : List (TableKind × List (Key × Item))},
    (∀ p ∈ elementPlaces elements, p < t ↔ p < u) → rowStage t elements = rowStage u elements
  | [], _ => rfl
  | (kind, es) :: elements, h => by
      obtain ⟨hfirst, helements⟩ := List.forall_mem_append.mp h
      obtain ⟨hkind, hes⟩ := List.forall_mem_append.mp hfirst
      rw [rowStage, rowStage, liveIn_congr hkind, stage_congr _ hes, rowStage_congr helements]

end

theorem liveIn_unseen {kind : TableKind} (h : ∀ p ∈ kindPlaces kind, t ≤ p) :
    liveIn t false kind = false := by
  cases kind with
  | headed place space => simpa [liveIn] using h place (List.mem_singleton.mpr rfl)
  | _ => rfl

mutual

theorem itemStage_unseen : ∀ {i : Item}, (∀ p ∈ itemPlaces i, t ≤ p) → itemStage t false i = none
  | .value .., _ => rfl
  | .table kind es, h => by
      obtain ⟨hkind, hes⟩ := List.forall_mem_append.mp h
      have hseen : ¬ ∃ p ∈ places es, p < t := fun ⟨p, hp, hlt⟩ => Nat.not_le_of_lt hlt (hes p hp)
      rw [itemStage, standsAs, if_neg (by simp [liveIn_unseen hkind]), if_neg hseen]
      rfl
  | .tables elements, h => by
      rw [itemStage, rowStage_unseen h]
      rfl

/-- Of a table whose values are still to come nothing stands there before the first header inside. -/
theorem stage_unseen : ∀ {es : List (Key × Item)}, (∀ p ∈ places es, t ≤ p) →
    stage t false es = Shapes.empty
  | [], _ => rfl
  | (k, i) :: es, h => by
      obtain ⟨hi, hes⟩ := List.forall_mem_append.mp h
      funext name
      rw [stage, itemStage_unseen hi, stage_unseen hes]
      exact ite_self _

theorem rowStage_unseen : ∀ {elements : List (TableKind × List (Key × Item))},
    (∀ p ∈ elementPlaces elements, t ≤ p) → rowStage t elements = []
  | [], _ => rfl
  | (kind, es) :: elements, h => by
      obtain ⟨hfirst, -⟩ := List.forall_mem_append.mp h
      rw [rowStage, liveIn_unseen (List.forall_mem_append.mp hfirst).1]
      rfl

end

theorem itemLines_dotted (path : List Key) (es : Entries) :
    itemLines path (.table .dotted es) = ownLines path es := rfl

mutual

theorem itemStage_live {path : List Key} : ∀ {i : Item}, itemLines path i = [] →
    itemStage t true i = itemStage t false i
  | .value .., h => by cases h
  | .table (.headed ..) _, _ => rfl
  | .table .implied _, _ => rfl
  | .table .dotted es, h => by
      have hown : ownLines [] es = [] := ownLines_eq_nil_iff.mp h
      rw [itemStage, itemStage, liveIn, liveIn, stage_live h]
      simp [standsAs, hown]
  | .tables _, _ => rfl

/-- Where a table has no lines of its own it does not matter whether they have been read. -/
theorem stage_live {path : List Key} : ∀ {es : List (Key × Item)}, ownLines path es = [] →
    stage t true es = stage t false es
  | [], _ => rfl
  | (k, i) :: es, h => by
      obtain ⟨hi, hes⟩ := List.append_eq_nil_iff.mp h
      funext name
      rw [stage, stage, itemStage_live hi, stage_live hes]

end

mutual

theorem mem_itemLines {path : List Key} : ∀ {i : Item} {l : Line}, l ∈ itemLines path i →
    ∃ rest space v, l = .entry (path ++ rest) space v
  | .value space v, l, hl => by
      cases List.mem_singleton.mp hl
      exact ⟨[], space, v, by rw [List.append_nil]⟩
  | .table (.headed ..) _, _, hl => by cases hl
  | .table .implied _, _, hl => by cases hl
  | .table .dotted _, _, hl => by
      obtain ⟨rest, space, v, -, rfl⟩ := mem_ownLines hl
      exact ⟨rest, space, v, rfl⟩
  | .tables _, _, hl => by cases hl

theorem mem_ownLines {path : List Key} : ∀ {es : List (Key × Item)} {l : Line},
    l ∈ ownLines path es → ∃ rest space v, rest ≠ [] ∧ l = .entry (path ++ rest) space v
  | [], _, hl => by cases hl
  | (k, i) :: es, l, hl => by
      rcases List.mem_append.mp hl with hl | hl
      · obtain ⟨rest, space, v, rfl⟩ := mem_itemLines hl
        exact ⟨k :: rest, space, v, nofun, by rw [List.append_assoc]; rfl⟩
      · exact mem_ownLines hl

end

end ServerLink.Toml.Entries

namespace ServerLink.Toml

open Function (update)

/-- What a line says, seen from an outer table. -/
def Gist.under (name : String) : Gist → Gist
  | .entry path sense => .entry (name :: path) sense
  | .header isArray path => .header isArray (name :: path)

theorem Line.gist_under (k : Key) (l : Line) : (Entries.under [k] l).gist = l.gist.under k.name := by
  cases l <;> rfl

namespace Shape

def addAll (allowed : Bool) : List Gist → Shapes → Option Shapes
  | [], s => some s
  | .entry path sense :: gists, s => (add sense allowed path s).bind (addAll allowed gists)
  | .header .. :: _, _ => none

theorem addAll_append (allowed : Bool) (gists more : List Gist) (s : Shapes) :
    addAll allowed (gists ++ more) s = (addAll allowed gists s).bind (addAll allowed more) := by
  induction gists generalizing s with
  | nil => rfl
  | cons g gists ih =>
      cases g with
      | entry path sense =>
          rw [List.cons_append, addAll, addAll, Option.bind_assoc]
          exact Option.bind_congr fun s _ => ih s
      | header => rfl

theorem through_bind (f g : Origin → Shapes → Option Shapes) (i : Option Shape) :
    through (fun origin s => (f origin s).bind (g origin)) i =
      (through f i).bind fun j => through g (some j) := by
  cases i with
  | none =>
      rw [through, through]
      cases f .path Shapes.empty <;> rfl
  | some i =>
      cases i with
      | value => rfl
      | table origin s =>
          cases origin with
          | header => rfl
          | inner | path =>
              simp only [through]
              cases f .path s <;> rfl
      | tables elements =>
          cases hlast : elements.getLast? with
          | none => simp [through, hlast]
          | some e =>
              obtain ⟨origin, s⟩ := e
              cases h : f origin s <;> simp [through, hlast, h]

theorem addAll_under {allowed : Bool} {name : String} {gists : List Gist} (hne : gists ≠ [])
    (hentries : ∀ g ∈ gists, ∃ path sense, path ≠ [] ∧ g = .entry path sense) (s : Shapes) :
    addAll allowed (gists.map (Gist.under name)) s =
      (through (fun origin => addAll (origin == .path) gists) (s name)).map fun j =>
        update s name (some j) := by
  induction gists generalizing s with
  | nil => exact absurd rfl hne
  | cons g gists ih =>
      obtain ⟨⟨path, sense, hpath, rfl⟩, hrest⟩ := List.forall_mem_cons.mp hentries
      obtain ⟨l, path, rfl⟩ := List.exists_cons_of_ne_nil hpath
      rw [List.map_cons, Gist.under, addAll, add]
      by_cases hnil : gists = []
      · subst hnil
        simp [addAll]
      · have hsplit := through_bind (fun origin s => add sense (origin == .path) (l :: path) s)
          (fun origin => addAll (origin == .path) gists) (s name)
        simp only [addAll, hsplit, Option.bind_map, Option.map_bind]
        refine Option.bind_congr fun j _ => ?_
        simp [ih hnil hrest]

end Shape

namespace Entries

variable {m : Manner} {own depth : Nat} {owned : Bool} {t : Nat}

theorem gists_ownLines {path : List Key} {es : Entries} {g : Gist}
    (h : g ∈ (ownLines path es).map Line.gist) : ∃ path sense, path ≠ [] ∧ g = .entry path sense := by
  obtain ⟨l, hl, rfl⟩ := List.mem_map.mp h
  obtain ⟨rest, space, v, hne, rfl⟩ := mem_ownLines hl
  exact ⟨(path ++ rest).map (·.name), v.content.sense, by simp [hne], rfl⟩

theorem gists_under (k : Key) (es : Entries) :
    (ownLines [k] es).map Line.gist = ((ownLines [] es).map Line.gist).map (Gist.under k.name) := by
  rw [ownLines_eq_map, List.map_map, List.map_map]
  exact List.map_congr_left fun l _ => l.gist_under k

theorem eq_stage {s : Shapes} {es : Entries} (hmem : ∀ name ∈ names es, s name = stage t true es name)
    (hrest : ∀ name ∉ names es, s name = stage t false es name) : s = stage t true es := by
  funext name
  by_cases h : name ∈ names es
  · exact hmem name h
  · rw [hrest name h, stage_of_not_mem h, stage_of_not_mem h]

theorem itemStage_dotted {es : Entries} (hown : ownLines [] es ≠ []) :
    itemStage t true (.table .dotted es) = some (.table .path (stage t true es)) := by
  simp [itemStage, standsAs, liveIn, hown, TableKind.origin]

/-- A path leads into what headers have left of its table, or into a new one. -/
theorem through_itemStage (f : Origin → Shapes → Option Shapes) (es : Entries) :
    Shape.through f (itemStage t false (.table .dotted es)) =
      (f .path (stage t false es)).map (.table .path) := by
  by_cases hseen : ∃ p ∈ places es, p < t
  · simp [itemStage, standsAs, liveIn, hseen, Shape.through]
  · have hunseen : ∀ p ∈ places es, t ≤ p := fun p hp => Nat.le_of_not_lt fun hlt => hseen ⟨p, hp, hlt⟩
    rw [itemStage, stage_unseen hunseen, standsAs, if_neg (by simp [liveIn]), if_neg hseen]
    rfl

mutual

theorem addAll_itemLines {k : Key} : ∀ {i : Item} {own depth : Nat} {owned : Bool},
    ItemFits m k own depth owned i → ∀ {s : Shapes}, s k.name = itemStage t false i →
    Shape.addAll true ((itemLines [k] i).map Line.gist) s =
      some (update s k.name (itemStage t true i))
  | .value .., _, _, _, _, s, hs => by
      simp [itemLines, Line.gist, Shape.addAll, Shape.add, hs, itemStage]
  | .table (.headed ..) _, _, _, _, _, _, hs => congrArg some (Function.update_eq_self_iff.mpr hs.symm).symm
  | .table .implied _, _, _, _, _, _, hs => congrArg some (Function.update_eq_self_iff.mpr hs.symm).symm
  | .table .dotted es, _, _, _, hi, s, hs => by
      obtain ⟨-, -, -, hnodup, hes⟩ := hi
      rw [itemLines_dotted]
      by_cases hnil : ownLines [k] es = []
      · have hlive : itemStage t true (.table .dotted es) = itemStage t false (.table .dotted es) :=
          itemStage_live hnil
        rw [hnil, hlive, ← hs, Function.update_eq_self]
        rfl
      · have hown : ownLines [] es ≠ [] := fun h => hnil (ownLines_eq_nil_iff.mpr h)
        have hgists : (ownLines [] es).map Line.gist ≠ [] := by simpa using hown
        obtain ⟨s', hs', hmem, hrest⟩ :=
          addAll_ownLines hes hnodup (s := stage t false es) fun _ _ => rfl
        obtain rfl := eq_stage hmem hrest
        rw [gists_under, Shape.addAll_under hgists fun g => gists_ownLines, hs, through_itemStage,
          itemStage_dotted hown, beq_self_eq_true, hs']
        rfl
  | .tables _, _, _, _, _, _, hs => congrArg some (Function.update_eq_self_iff.mpr hs.symm).symm

theorem addAll_ownLines : ∀ {es : List (Key × Item)} {own depth : Nat} {owned : Bool},
    Fits m own depth owned es → (names es).Nodup →
    ∀ {s : Shapes}, (∀ name ∈ names es, s name = stage t false es name) →
    ∃ s', Shape.addAll true ((ownLines [] es).map Line.gist) s = some s' ∧
      (∀ name ∈ names es, s' name = stage t true es name) ∧ ∀ name ∉ names es, s' name = s name
  | [], _, _, _, _, _, s, _ => ⟨s, rfl, nofun, fun _ _ => rfl⟩
  | (k, i) :: es, _, _, _, hes, hnodup, s, hs => by
      obtain ⟨⟨-, hi⟩, hes⟩ := hes
      obtain ⟨hk, hnodup⟩ : k.name ∉ names es ∧ (names es).Nodup := List.nodup_cons.mp hnodup
      obtain ⟨hfirst, hs⟩ := List.forall_mem_cons.mp hs
      have hitem := addAll_itemLines hi (hfirst.trans (if_pos rfl))
      have hagree : ∀ name ∈ names es,
          update s k.name (itemStage t true i) name = stage t false es name := by
        intro name hname
        have hne : name ≠ k.name := fun h => hk (h ▸ hname)
        rw [Function.update_of_ne hne, hs name hname, stage, if_neg hne.symm]
      obtain ⟨s', hs', hmem, hrest⟩ := addAll_ownLines hes hnodup hagree
      refine ⟨s', ?_, List.forall_mem_cons.mpr ⟨?_, fun name hname => ?_⟩, fun name hname => ?_⟩
      · rw [ownLines, List.map_append, Shape.addAll_append, List.nil_append, hitem, Option.bind_some, hs']
      · rw [hrest _ hk, Function.update_self, stage, if_pos rfl]
      · have hne : name ≠ k.name := fun h => hk (h ▸ hname)
        rw [hmem name hname, stage, if_neg hne.symm]
      · obtain ⟨hne, hname⟩ := not_or.mp (List.mem_cons.not.mp hname)
        rw [hrest name hname, Function.update_of_ne hne]

end

/-- The lines of a table add its values to what headers have left of it. -/
theorem addAll_stage {es : Entries} (hes : Sound m own depth owned es) :
    Shape.addAll true ((ownLines [] es).map Line.gist) (stage t false es) = some (stage t true es) := by
  obtain ⟨s', hs', hmem, hrest⟩ :=
    addAll_ownLines hes.fits hes.nodup (fun _ _ => rfl : ∀ name ∈ names es, stage t false es name = _)
  rw [hs', eq_stage hmem hrest]

end Entries

end ServerLink.Toml
