import Mathlib.Data.List.Basic
import ServerLink.Proofs.Toml.Comment

namespace ServerLink.Toml

theorem lead_cons (k l : Key) (path : List Key) : lead (k :: l :: path) = lead (l :: path) := by
  simp [lead, List.getLast?_cons]

theorem lead_append (path : List Key) {rest : List Key} (hne : rest ≠ []) :
    lead (path ++ rest) = lead rest := by
  induction path with
  | nil => rfl
  | cons k path ih =>
      obtain ⟨l, ls, hls⟩ := List.exists_cons_of_ne_nil (List.append_ne_nil_of_right_ne_nil path hne)
      rw [List.cons_append, hls, lead_cons, ← hls, ih]

namespace Entries

/-- The comments of the header of a table itself. -/
def kindComments : TableKind → List (List Char)
  | .headed _ space => comments space.before ++ comments space.after
  | _ => []

mutual

def itemComments (k : Key) : Item → List (List Char)
  | .value space v => (Line.entry [k] space v).comments
  | .table kind es => kindComments kind ++ allComments es
  | .tables elements => elementComments elements

/-- The comments of a table, in the order of the tree. -/
def allComments : List (Key × Item) → List (List Char)
  | [] => []
  | (k, i) :: es => itemComments k i ++ allComments es

def elementComments : List (TableKind × List (Key × Item)) → List (List Char)
  | [] => []
  | (kind, es) :: elements => kindComments kind ++ allComments es ++ elementComments elements

end

theorem allComments_append (es fs : Entries) : allComments (es ++ fs) = allComments es ++ allComments fs := by
  induction es with
  | nil => rfl
  | cons e es ih =>
      obtain ⟨k, i⟩ := e
      simp [allComments, ih]

theorem allComments_concat (es : Entries) (k : Key) (i : Item) :
    (allComments (es ++ [(k, i)])).Perm (itemComments k i ++ allComments es) := by
  rw [allComments_append, allComments, allComments, List.append_nil]
  exact List.perm_append_comm

theorem elementComments_append (elements more : List (TableKind × Entries)) :
    elementComments (elements ++ more) = elementComments elements ++ elementComments more := by
  induction elements with
  | nil => rfl
  | cons e elements ih =>
      obtain ⟨kind, es⟩ := e
      simp [elementComments, ih]

theorem allComments_replace {name : String} {old new : Item} {es : Entries} {added : List (List Char)}
    (hfind : find? name es = some old)
    (hcomments : ∀ k, (itemComments k new).Perm (added ++ itemComments k old)) :
    (allComments (replace name new es)).Perm (added ++ allComments es) := by
  induction es with
  | nil => cases hfind
  | cons e es ih =>
      obtain ⟨k, j⟩ := e
      rw [find?_cons] at hfind
      rw [replace]
      split at hfind
      · rename_i hk
        cases hfind
        simp only [hk, if_true, allComments, ← List.append_assoc]
        exact (hcomments k).append_right _
      · rename_i hk
        simp only [hk, if_false, allComments]
        grind

theorem allComments_remove {name : String} {kind : TableKind} {inside es : Entries}
    (hfind : find? name es = some (.table kind inside)) :
    (kindComments kind ++ allComments inside ++ allComments (remove name es)).Perm (allComments es) := by
  induction es with
  | nil => cases hfind
  | cons e es ih =>
      obtain ⟨k, j⟩ := e
      rw [find?_cons] at hfind
      rw [remove]
      split at hfind
      · rename_i hk
        cases hfind
        simp only [hk, if_true, allComments, itemComments]
        exact List.Perm.refl _
      · rename_i hk
        simp only [hk, if_false, allComments]
        grind

theorem allComments_last {kind : TableKind} {elements : List (TableKind × Entries)} {es es' : Entries}
    {added : List (List Char)} (hlast : elements.getLast? = some (kind, es))
    (hcomments : (allComments es').Perm (added ++ allComments es)) :
    (elementComments (elements.dropLast ++ [(kind, es')])).Perm (added ++ elementComments elements) := by
  obtain ⟨elements, rfl⟩ := List.getLast?_eq_some_iff.mp hlast
  rw [List.dropLast_concat, elementComments_append, elementComments_append]
  simp only [elementComments, List.append_nil]
  grind

theorem addValue_comments {start : Bool} {kind : TableKind} {space : Space} {v : Value} {path : List Key}
    {es es' : Entries} (h : addValue start kind (.value space v) path es = some es') :
    (allComments es').Perm ((Line.entry path space v).comments ++ allComments es) := by
  have hline (k l : Key) (path : List Key) :
      (Line.entry (k :: l :: path) space v).comments = (Line.entry (l :: path) space v).comments := by
    rw [Line.comments, Line.comments, lead_cons]
  fun_induction addValue start kind (.value space v) path es generalizing es' with
  | case1 | case2 | case5 | case6 | case8 => cases h
  | case3 start kind k es =>
      cases h
      exact allComments_concat es k _
  | case4 start kind k l path es hnone ih =>
      obtain ⟨inside, hinside, heq⟩ := Option.bind_eq_some_iff.mp h
      cases heq
      have hinner : (allComments inside).Perm _ := ih hinside
      rw [allComments, List.append_nil] at hinner
      rw [hline]
      exact (allComments_concat es k _).trans (hinner.append_right _)
  | case7 start kind k l path es old inside hfind hkind ih =>
      obtain ⟨inside', hinside, heq⟩ := Option.bind_eq_some_iff.mp h
      cases heq
      rw [hline]
      refine allComments_replace hfind fun _ => ?_
      have hnone : kindComments old = [] := by
        cases old with
        | headed place space => exact absurd rfl (hkind place space)
        | _ => rfl
      rw [itemComments, itemComments, hnone]
      exact ih hinside
  | case9 start kind k l path es elements hfind old inside hlast ih =>
      obtain ⟨inside', hinside, heq⟩ := Option.bind_eq_some_iff.mp h
      cases heq
      rw [hline]
      exact allComments_replace hfind fun _ => allComments_last hlast (ih hinside)

theorem allComments_table {name : String} {kind : TableKind} {es inside inside' : Entries}
    {added : List (List Char)} (hfind : find? name es = some (.table kind inside))
    (hinside : (allComments inside').Perm (added ++ allComments inside)) :
    (allComments (replace name (.table kind inside') es)).Perm (added ++ allComments es) := by
  refine allComments_replace hfind fun _ => ?_
  rw [itemComments, itemComments]
  grind

theorem changeAt_comments {f : TableKind → Entries → Option Entries} {added : List (List Char)}
    (hf : ∀ {kind es es'}, f kind es = some es' → (allComments es').Perm (added ++ allComments es))
    {path : List Key} {kind : TableKind} {es es' : Entries} (h : changeAt f path kind es = some es') :
    (allComments es').Perm (added ++ allComments es) := by
  fun_induction changeAt f path kind es generalizing es' with
  | case1 => exact hf h
  | case2 k path old es kind inside hfind ih =>
      obtain ⟨inside', hinside, heq⟩ := Option.bind_eq_some_iff.mp h
      cases heq
      exact allComments_table hfind (ih hinside)
  | case4 k path old es elements hfind kind inside hlast ih =>
      obtain ⟨inside', hinside, heq⟩ := Option.bind_eq_some_iff.mp h
      cases heq
      exact allComments_replace hfind fun _ => allComments_last hlast (ih hinside)
  | case3 | case5 => cases h

theorem openAt_comments {f : Key → Entries → Option Entries} {added : List (List Char)}
    (hf : ∀ {k es es'}, f k es = some es' → (allComments es').Perm (added ++ allComments es))
    {path : List Key} {es es' : Entries} (h : openAt f path es = some es') :
    (allComments es').Perm (added ++ allComments es) := by
  fun_induction openAt f path es generalizing es' with
  | case1 | case4 | case6 => cases h
  | case2 => exact hf h
  | case3 k l path es hnone ih =>
      obtain ⟨inside, hinside, heq⟩ := Option.bind_eq_some_iff.mp h
      cases heq
      have hinner : (allComments inside).Perm (added ++ []) := ih hinside
      rw [List.append_nil] at hinner
      exact (allComments_concat es k _).trans (hinner.append_right _)
  | case5 k l path es outer inside hfind ih =>
      obtain ⟨inside', hinside, heq⟩ := Option.bind_eq_some_iff.mp h
      cases heq
      exact allComments_table hfind (ih hinside)
  | case7 k l path es elements hfind outer inside hlast ih =>
      obtain ⟨inside', hinside, heq⟩ := Option.bind_eq_some_iff.mp h
      cases heq
      exact allComments_replace hfind fun _ => allComments_last hlast (ih hinside)

theorem openTable_comments {kind : TableKind} {path : List Key} {es es' : Entries}
    (h : openTable kind path es = some es') :
    (allComments es').Perm (kindComments kind ++ allComments es) := by
  refine openAt_comments (fun {k es es'} h => ?_) h
  split at h
  · cases h
    simpa [itemComments, allComments] using allComments_concat es k (.table kind [])
  · rename_i inside hfind
    cases h
    refine (allComments_concat _ k _).trans ?_
    rw [itemComments, List.append_assoc]
    exact (allComments_remove hfind).append_left _
  · cases h

theorem openElement_comments {kind : TableKind} {path : List Key} {es es' : Entries}
    (h : openElement kind path es = some es') :
    (allComments es').Perm (kindComments kind ++ allComments es) := by
  refine openAt_comments (fun {k es es'} h => ?_) h
  split at h
  · cases h
    simpa [itemComments, elementComments, allComments] using allComments_concat es k (.tables [(kind, [])])
  · rename_i elements hfind
    cases h
    refine allComments_replace hfind fun _ => ?_
    rw [itemComments, itemComments, elementComments_append]
    simpa [elementComments, allComments] using List.perm_append_comm
  · cases h

theorem addLines_comments {n : Nat} {current : List Key} {lines : List Line} {es es' : Entries}
    (h : addLines n current lines es = some es') :
    (allComments es').Perm (lines.flatMap Line.comments ++ allComments es) := by
  have hstep {line : Line} {lines : List Line} {es es₁ : Entries}
      (hline : (allComments es₁).Perm (line.comments ++ allComments es))
      (hrest : (allComments es').Perm (lines.flatMap Line.comments ++ allComments es₁)) :
      (allComments es').Perm ((line :: lines).flatMap Line.comments ++ allComments es) := by
    rw [List.flatMap_cons]
    grind
  fun_induction addLines n current lines es with
  | case1 =>
      cases h
      exact List.Perm.refl _
  | case2 n current path space v lines es ih =>
      obtain ⟨es₁, hadd, h⟩ := Option.bind_eq_some_iff.mp h
      exact hstep (changeAt_comments (fun hadd => addValue_comments hadd) hadd) (ih es₁ h)
  | case3 n current path space lines es ih =>
      obtain ⟨es₁, hopen, h⟩ := Option.bind_eq_some_iff.mp h
      exact hstep (openTable_comments hopen) (ih es₁ h)
  | case4 n current path space lines es ih =>
      obtain ⟨es₁, hopen, h⟩ := Option.bind_eq_some_iff.mp h
      exact hstep (openElement_comments hopen) (ih es₁ h)

section Written

variable {m : Manner} {own depth : Nat} {owned : Bool}

mutual

theorem itemLines_of_unowned {k : Key} {path : List Key} : ∀ {i : Item} {own depth : Nat},
    ItemFits m k own depth false i → itemLines path i = []
  | .value .., _, _, h => by simp [ItemFits] at h
  | .table (.headed ..) _, _, _, _ => rfl
  | .table .implied _, _, _, _ => rfl
  | .table .dotted _, _, _, h => by simp [ItemFits] at h
  | .tables _, _, _, _ => rfl

theorem ownLines_of_unowned {path : List Key} : ∀ {es : List (Key × Item)} {own depth : Nat},
    Fits m own depth false es → ownLines path es = []
  | [], _, _, _ => rfl
  | (_, _) :: _, _, _, h => by
      rw [ownLines, itemLines_of_unowned h.1.2, ownLines_of_unowned h.2]
      rfl

end

/-- The comments of sections. -/
def sectionComments (ss : List Section) : List (List Char) :=
  ss.flatMap fun s => s.lines.flatMap Line.comments

theorem sectionComments_append (ss more : List Section) :
    sectionComments (ss ++ more) = sectionComments ss ++ sectionComments more :=
  List.flatMap_append

theorem sectionComments_own (isArray : Bool) (path : List Key) (place : Nat) (space : Space)
    (es : Entries) : sectionComments (ownSection isArray path (.headed place space) es) =
      kindComments (.headed place space) ++ (ownLines [] es).flatMap Line.comments := by
  simp [sectionComments, ownSection, kindComments, Line.comments]

theorem comments_under (path : List Key) {l : Line} {rest : List Key} {space : Space} {v : Value}
    (hl : l = .entry rest space v) (hne : rest ≠ []) : (under path l).comments = l.comments := by
  subst hl
  rw [under, Line.comments, Line.comments, lead_append path hne]

theorem comments_ownLines (path : List Key) (es : Entries) :
    (ownLines path es).flatMap Line.comments = (ownLines [] es).flatMap Line.comments := by
  rw [ownLines_eq_map, List.flatMap_map]
  refine List.flatMap_congr fun l hl => ?_
  obtain ⟨rest, space, v, hne, rfl⟩ := mem_ownLines hl
  exact comments_under path rfl hne

mutual

theorem item_comments {k : Key} (path : List Key) : ∀ {i : Item} {own depth : Nat} {owned : Bool},
    ItemFits m k own depth owned i →
    ((itemLines (path ++ [k]) i).flatMap Line.comments ++ sectionComments (itemSections (path ++ [k]) i)).Perm
      (itemComments k i)
  | .value space v, _, _, _, _ => by
      simp [itemLines, itemSections, sectionComments, itemComments, Line.comments,
        lead_append path (List.cons_ne_nil k [])]
  | .table (.headed place space) es, _, _, _, h => by
      have hes := table_comments (path ++ [k]) h.2.2.2.2
      rw [comments_ownLines] at hes
      rw [itemSections, sectionComments_append, sectionComments_own, itemComments]
      simpa [itemLines] using hes.append_left (kindComments (.headed place space))
  | .table .implied es, _, _, _, h => by
      have hes := table_comments (path ++ [k]) h.2.2.2
      rw [ownLines_of_unowned h.2.2.2] at hes
      simpa [itemLines, itemSections, ownSection, itemComments, kindComments] using hes
  | .table .dotted es, _, _, _, h => by
      have hes := table_comments (path ++ [k]) h.2.2.2.2
      simpa [itemLines, itemSections, ownSection, itemComments, kindComments] using hes
  | .tables elements, _, _, _, h => by
      simpa [itemLines, itemSections, itemComments] using elements_comments (path ++ [k]) h.2.2.2

/-- The comments of a table are written in its own lines and in the sections inside. -/
theorem table_comments (path : List Key) : ∀ {es : List (Key × Item)} {own depth : Nat} {owned : Bool},
    Fits m own depth owned es →
    ((ownLines path es).flatMap Line.comments ++ sectionComments (sections path es)).Perm (allComments es)
  | [], _, _, _, _ => List.Perm.refl _
  | (k, i) :: es, _, _, _, h => by
      have hi := item_comments path h.1.2
      have hes := table_comments path h.2
      rw [ownLines, sections, sectionComments_append, List.flatMap_append, allComments]
      grind

theorem elements_comments (path : List Key) : ∀ {elements : List (TableKind × List (Key × Item))} {depth : Nat},
    ElementsFit m depth elements → (sectionComments (elementSections path elements)).Perm (elementComments elements)
  | [], _, _ => List.Perm.refl _
  | (_, es) :: elements, _, h => by
      obtain ⟨⟨place, space, rfl, -⟩, -, ⟨-, hfits⟩, hrest⟩ := h
      have hes := table_comments path hfits
      have helements := elements_comments path hrest
      rw [comments_ownLines] at hes
      rw [elementSections, sectionComments_append, sectionComments_append, sectionComments_own,
        elementComments]
      grind

end

theorem comments_lines {es : Entries} (hes : Sound m own depth owned es) :
    ((lines es).flatMap Line.comments).Perm (allComments es) := by
  have hsorted : (sectionComments ((sections [] es).mergeSort fun a b => a.place ≤ b.place)).Perm
      (sectionComments (sections [] es)) := (List.mergeSort_perm _ _).flatMap_right _
  have hes := table_comments [] hes.fits
  rw [lines, List.flatMap_append, List.flatMap_assoc]
  exact (hsorted.append_left _).trans hes

/-- The lines of a tree have the comments of the lines that it was built up from. -/
theorem comments_ofLines? {lines : List Line} {es : Entries} (h : ofLines? lines = some es)
    (hlines : ∀ l ∈ lines, l.Fits m) :
    ((Entries.lines es).flatMap Line.comments).Perm (lines.flatMap Line.comments) := by
  obtain ⟨n, current, hstanding⟩ := ofLines?_standing h hlines
  have hall := addLines_comments h
  rw [allComments, List.append_nil] at hall
  exact (comments_lines hstanding.sound).trans hall

end Written

end Entries

end ServerLink.Toml
