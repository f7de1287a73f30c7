import Mathlib.Data.List.Nodup
import ServerLink.Proofs.Toml.Order

/-!
The sections of a document in the order in which their headers were read. A line goes to the end of the section
that was opened last, and all others stay what they were.
-/

namespace ServerLink.Toml.Entries

variable {m : Manner} {own depth : Nat} {owned : Bool}

def Section.marks (s : Section) : Nat × List Mark :=
  (s.place, s.lines.map Line.mark)

/-- The sections of a table, its own among them. -/
def tableSections (isArray : Bool) (path : List Key) (kind : TableKind) (es : Entries) : List Section :=
  ownSection isArray path kind es ++ sections path es

theorem elementSections_append (path : List Key) (elements more : List (TableKind × Entries)) :
    elementSections path (elements ++ more) = elementSections path elements ++ elementSections path more := by
  induction elements with
  | nil => rfl
  | cons e elements ih =>
      obtain ⟨kind, es⟩ := e
      simp [elementSections, ih]

theorem itemSections_table (path : List Key) (kind : TableKind) (es : Entries) :
    itemSections path (.table kind es) = tableSections false path kind es := rfl

theorem itemSections_concat (path : List Key) (elements : List (TableKind × Entries)) (kind : TableKind)
    (es : Entries) : itemSections path (.tables (elements ++ [(kind, es)])) =
      elementSections path elements ++ tableSections true path kind es := by
  rw [itemSections, elementSections_append, elementSections, elementSections, List.append_nil, tableSections]

mutual

/-- A section begins with the header of a table on the path or further inside. -/
theorem header_of_mem_itemSections {path : List Key} : ∀ {i : Item} {s : Section}, s ∈ itemSections path i →
    ∃ isArray rest space lines, s.lines = .header isArray (path ++ rest) space :: lines
  | .value .., _, h => by cases h
  | .table kind es, s, h => by
      rcases List.mem_append.mp h with h | h
      · exact header_of_mem_ownSection h
      · exact header_of_mem_sections h
  | .tables _, _, h => header_of_mem_elementSections h

theorem header_of_mem_ownSection {isArray : Bool} {path : List Key} {kind : TableKind}
    {es : List (Key × Item)} {s : Section} (h : s ∈ ownSection isArray path kind es) :
    ∃ isArray rest space lines, s.lines = .header isArray (path ++ rest) space :: lines := by
  cases kind with
  | headed place space =>
      cases List.mem_singleton.mp h
      exact ⟨isArray, [], space, _, by rw [List.append_nil]⟩
  | _ => cases h

theorem header_of_mem_sections {path : List Key} : ∀ {es : List (Key × Item)} {s : Section},
    s ∈ sections path es →
    ∃ isArray rest space lines, s.lines = .header isArray (path ++ rest) space :: lines
  | [], _, h => by cases h
  | (k, i) :: es, s, h => by
      rcases List.mem_append.mp h with h | h
      · obtain ⟨isArray, rest, space, lines, hlines⟩ := header_of_mem_itemSections h
        exact ⟨isArray, k :: rest, space, lines, by rw [hlines, List.append_assoc]; rfl⟩
      · exact header_of_mem_sections h

theorem header_of_mem_elementSections {path : List Key} :
    ∀ {elements : List (TableKind × List (Key × Item))} {s : Section}, s ∈ elementSections path elements →
    ∃ isArray rest space lines, s.lines = .header isArray (path ++ rest) space :: lines
  | [], _, h => by cases h
  | (kind, es) :: elements, s, h => by
      rcases List.mem_append.mp h with h | h
      · rcases List.mem_append.mp h with h | h
        · exact header_of_mem_ownSection h
        · exact header_of_mem_sections h
      · exact header_of_mem_elementSections h

end

section Names

variable {p q : List Key}

theorem marks_ownSection_congr (h : p.map (·.name) = q.map (·.name)) (isArray : Bool) (kind : TableKind)
    (es : Entries) :
    (ownSection isArray p kind es).map Section.marks = (ownSection isArray q kind es).map Section.marks := by
  cases kind with
  | headed place space =>
      have hmark : (Line.header isArray p space).mark = (Line.header isArray q space).mark := by
        rw [Line.mark, Line.mark, Line.gist, Line.gist, h]
        rfl
      simp [ownSection, Section.marks, hmark]
  | _ => rfl

theorem names_concat (h : p.map (·.name) = q.map (·.name)) (k : Key) :
    (p ++ [k]).map (·.name) = (q ++ [k]).map (·.name) := by
  rw [List.map_append, List.map_append, h]

mutual

theorem marks_itemSections_congr {p q : List Key} (h : p.map (·.name) = q.map (·.name)) : ∀ i : Item,
    (itemSections p i).map Section.marks = (itemSections q i).map Section.marks
  | .value .. => rfl
  | .table kind es => by
      rw [itemSections, itemSections, List.map_append, List.map_append, marks_ownSection_congr h,
        marks_sections_congr h es]
  | .tables elements => marks_elementSections_congr h elements

theorem marks_sections_congr {p q : List Key} (h : p.map (·.name) = q.map (·.name)) :
    ∀ es : List (Key × Item), (sections p es).map Section.marks = (sections q es).map Section.marks
  | [] => rfl
  | (k, i) :: es => by
      rw [sections, sections, List.map_append, List.map_append,
        marks_itemSections_congr (names_concat h k) i, marks_sections_congr h es]

theorem marks_elementSections_congr {p q : List Key} (h : p.map (·.name) = q.map (·.name)) :
    ∀ elements : List (TableKind × List (Key × Item)),
    (elementSections p elements).map Section.marks = (elementSections q elements).map Section.marks
  | [] => rfl
  | (kind, es) :: elements => by
      rw [elementSections, elementSections, List.map_append, List.map_append, List.map_append,
        List.map_append, marks_ownSection_congr h, marks_sections_congr h es,
        marks_elementSections_congr h elements]

end

end Names

theorem marks_header_congr {p q : List Key} (h : p.map (·.name) = q.map (·.name)) (isArray : Bool)
    (space : Space) : (Line.header isArray p space).mark = (Line.header isArray q space).mark := by
  rw [Line.mark, Line.mark, Line.gist, Line.gist, h]
  rfl

/-- The section of a header that has just been read. -/
def opened (isArray : Bool) (path : List Key) (place : Nat) (space : Space) : Nat × List Mark :=
  (place, [(Line.header isArray path space).mark])

theorem opened_congr {p q : List Key} (h : p.map (·.name) = q.map (·.name)) (isArray : Bool) (place : Nat)
    (space : Space) : opened isArray p place space = opened isArray q place space := by
  rw [opened, opened, marks_header_congr h]

theorem marks_sections_replace {name : String} {old : Item} {es : Entries} (new : Item) (path : List Key)
    (hfind : find? name es = some old) : ∃ before k after, k.name = name ∧
      (sections path es).map Section.marks =
        before ++ (itemSections (path ++ [k]) old).map Section.marks ++ after ∧
      (sections path (replace name new es)).map Section.marks =
        before ++ (itemSections (path ++ [k]) new).map Section.marks ++ after := by
  obtain ⟨before, k, after, rfl, hk, -, hreplace⟩ := exists_of_find? hfind
  refine ⟨(sections path before).map Section.marks, k, (sections path after).map Section.marks, hk, ?_, ?_⟩
  · simp [sections_append, sections]
  · simp [hreplace, sections_append, sections]

theorem perm_inside {α : Type} {a : α} {l l' : List α} (h : l'.Perm (a :: l)) (before after : List α) :
    (before ++ l' ++ after).Perm (a :: (before ++ l ++ after)) := by
  have hmiddle : (before ++ a :: (l ++ after)).Perm (a :: (before ++ (l ++ after))) := List.perm_middle
  simpa using ((h.append_right after).append_left before).trans hmiddle

theorem ownSection_congr {es es' : Entries} (hlines : ∀ path, ownLines path es' = ownLines path es)
    (isArray : Bool) (path : List Key) (kind : TableKind) :
    ownSection isArray path kind es' = ownSection isArray path kind es := by
  cases kind <;> simp [ownSection, hlines]

theorem marks_sections_inside {s : Nat × List Mark} {name : String} {old new : Item} {es : Entries}
    {path : List Key} (hfind : find? name es = some old)
    (hinside : ∀ k : Key, k.name = name → ((itemSections (path ++ [k]) new).map Section.marks).Perm
      (s :: (itemSections (path ++ [k]) old).map Section.marks)) :
    ((sections path (replace name new es)).map Section.marks).Perm
      (s :: (sections path es).map Section.marks) := by
  obtain ⟨before, k, after, hk, hold, hnew⟩ := marks_sections_replace new path hfind
  rw [hold, hnew]
  exact perm_inside (hinside k hk) before after

/-- A header that is read opens a section, and no other one becomes different. -/
theorem openAt_marks {isArray : Bool} {place : Nat} {space : Space} {f : Key → Entries → Option Entries}
    (hf : ∀ {k : Key} {es es' : Entries} {own depth : Nat} {owned : Bool}, f k es = some es' →
      Sound m own depth owned es → (∀ path, ownLines path es' = ownLines path es) ∧
        ∀ pre, ((sections pre es').map Section.marks).Perm
          (opened isArray (pre ++ [k]) place space :: (sections pre es).map Section.marks))
    {path : List Key} {es es' : Entries} (h : openAt f path es = some es')
    (hes : Sound m own depth owned es) : (∀ path, ownLines path es' = ownLines path es) ∧
      ∀ pre, ((sections pre es').map Section.marks).Perm
        (opened isArray (pre ++ path) place space :: (sections pre es).map Section.marks) := by
  fun_induction openAt f path es generalizing own depth owned es' with
  | case1 | case4 | case6 => cases h
  | case2 => exact hf h hes
  | case3 k l path es hnone ih =>
      obtain ⟨inside, hinside, heq⟩ := Option.bind_eq_some_iff.mp h
      cases heq
      have hnew : Sound m own depth owned [] := sound_nil
      obtain ⟨-, hsections⟩ := ih hinside hnew
      refine ⟨fun path => by simp [ownLines_append, ownLines, itemLines], fun pre => ?_⟩
      have hsections := perm_inside (hsections (pre ++ [k])) ((sections pre es).map Section.marks) []
      simpa [sections_append, sections, itemSections, ownSection] using hsections
  | case5 k l path es outer inside hfind ih =>
      obtain ⟨inside', hinside, heq⟩ := Option.bind_eq_some_iff.mp h
      cases heq
      obtain ⟨own', owned', -, hsound⟩ := hes.of_table hfind
      obtain ⟨hlines, hsections⟩ := ih hinside hsound
      refine ⟨ownLines_replace hfind ?_, fun pre => marks_sections_inside hfind fun k' hk' => ?_⟩
      · cases outer with
        | dotted => exact hlines
        | _ => exact fun _ => rfl
      · have hsections := hsections (pre ++ [k'])
        rw [opened_congr (q := pre ++ k :: l :: path) (by simp [hk'])] at hsections
        rw [itemSections, itemSections, ownSection_congr hlines, List.map_append, List.map_append]
        simpa using perm_inside hsections ((ownSection false (pre ++ [k']) outer inside).map Section.marks) []
  | case7 k l path es elements hfind outer inside hlast ih =>
      obtain ⟨inside', hinside, heq⟩ := Option.bind_eq_some_iff.mp h
      cases heq
      obtain ⟨hlines, hsections⟩ := ih hinside (hes.of_last hfind hlast)
      refine ⟨ownLines_replace hfind fun _ => rfl, fun pre => marks_sections_inside hfind fun k' hk' => ?_⟩
      have hsections := hsections (pre ++ [k'])
      rw [opened_congr (q := pre ++ k :: l :: path) (by simp [hk'])] at hsections
      obtain ⟨elements, rfl⟩ := List.getLast?_eq_some_iff.mp hlast
      rw [List.dropLast_concat, itemSections, itemSections, elementSections_append, elementSections_append]
      simp only [elementSections, ownSection_congr hlines, List.append_nil, List.map_append]
      simpa using perm_inside hsections ((elementSections (pre ++ [k']) elements).map Section.marks ++
        (ownSection true (pre ++ [k']) outer inside).map Section.marks) []

theorem openTable_marks {place : Nat} {space : Space} {path : List Key} {es es' : Entries}
    (h : openTable (.headed place space) path es = some es') (hes : Sound m own depth owned es) :
    (∀ path, ownLines path es' = ownLines path es) ∧
      ∀ pre, ((sections pre es').map Section.marks).Perm
        (opened false (pre ++ path) place space :: (sections pre es).map Section.marks) := by
  refine openAt_marks (fun {k es es' own depth owned} h hes => ?_) h hes
  split at h
  · cases h
    refine ⟨fun path => by simp [ownLines_append, ownLines, itemLines], fun pre => ?_⟩
    simp only [sections_append, sections, itemSections, ownSection, ownLines, List.append_nil,
      List.map_append, List.map_cons, List.map_nil, Section.marks, opened]
    exact List.perm_append_comm
  · rename_i inside hfind
    cases h
    obtain ⟨-, -, -, -, -, -, -, hfits⟩ := hes.find hfind
    have hnone : ownLines [] inside = [] := ownLines_of_unowned hfits
    refine ⟨fun path => ?_, fun pre => ?_⟩
    · rw [ownLines_append, ownLines_remove hfind fun _ => rfl]
      simp [ownLines, itemLines]
    · obtain ⟨before, k', after, rfl, hk, hremove, -⟩ := exists_of_find? hfind
      have hnames : (pre ++ [k']).map (·.name) = (pre ++ [k]).map (·.name) := by simp [hk]
      have hsame := marks_sections_congr hnames inside
      simp only [hremove, sections_append, sections, itemSections, ownSection, hnone, List.append_nil,
        List.map_append, List.map_cons, List.map_nil, List.nil_append, List.append_assoc, Section.marks,
        hsame, opened]
      rw [← List.append_assoc]
      refine List.perm_middle.trans (.cons _ ?_)
      rw [List.append_assoc]
      exact List.perm_append_comm.append_left _
  · cases h

theorem openElement_marks {place : Nat} {space : Space} {path : List Key} {es es' : Entries}
    (h : openElement (.headed place space) path es = some es') (hes : Sound m own depth owned es) :
    (∀ path, ownLines path es' = ownLines path es) ∧
      ∀ pre, ((sections pre es').map Section.marks).Perm
        (opened true (pre ++ path) place space :: (sections pre es).map Section.marks) := by
  refine openAt_marks (fun {k es es' own depth owned} h hes => ?_) h hes
  split at h
  · cases h
    refine ⟨fun path => by simp [ownLines_append, ownLines, itemLines], fun pre => ?_⟩
    simp only [sections_append, sections, itemSections, elementSections, ownSection, ownLines,
      List.append_nil, List.map_append, List.map_cons, List.map_nil, Section.marks, opened]
    exact List.perm_append_comm
  · rename_i elements hfind
    cases h
    refine ⟨ownLines_replace hfind fun _ => rfl, fun pre => marks_sections_inside hfind fun k' hk' => ?_⟩
    rw [opened_congr (q := pre ++ [k']) (by simp [hk'])]
    simp only [itemSections, elementSections_append, elementSections, sections, ownSection, ownLines,
      List.append_nil, List.map_append, List.map_cons, List.map_nil, Section.marks, opened]
    exact List.perm_append_comm
  · cases h

/-- A line has been put at the end of a section. -/
def Grows (place : Nat) (mark : Mark) (ss ss' : List (Nat × List Mark)) : Prop :=
  ∃ before marks after, ss = before ++ (place, marks) :: after ∧
    ss' = before ++ (place, marks ++ [mark]) :: after

theorem Grows.inside {place : Nat} {mark : Mark} {ss ss' : List (Nat × List Mark)}
    (h : Grows place mark ss ss') (before after : List (Nat × List Mark)) :
    Grows place mark (before ++ ss ++ after) (before ++ ss' ++ after) := by
  obtain ⟨b, marks, a, rfl, rfl⟩ := h
  exact ⟨before ++ b, marks, a ++ after, by simp, by simp⟩

/-- The last section grows, in whatever order the sections are. -/
theorem Grows.perm {place : Nat} {mark : Mark} {ss ss' before : List (Nat × List Mark)} {marks : List Mark}
    (h : Grows place mark ss ss') (hperm : ss.Perm (before ++ [(place, marks)]))
    (hbefore : ∀ s ∈ before, s.1 < place) : ss'.Perm (before ++ [(place, marks ++ [mark])]) := by
  obtain ⟨b, marks', a, rfl, rfl⟩ := h
  have hmem : (place, marks') ∈ before ++ [(place, marks)] :=
    hperm.subset (List.mem_append_right _ List.mem_cons_self)
  obtain rfl : marks' = marks := by
    rcases List.mem_append.mp hmem with hmem | hmem
    · exact absurd (hbefore _ hmem) (Nat.lt_irrefl _)
    · exact congrArg Prod.snd (List.mem_singleton.mp hmem)
  have hrest : (b ++ a).Perm before :=
    (List.perm_middle.symm.trans (hperm.trans (List.perm_append_singleton _ _))).cons_inv
  exact List.perm_middle.trans ((hrest.cons _).trans (List.perm_append_singleton _ _).symm)

section ChangeAt

variable {place : Nat} {space : Space} {f : TableKind → Entries → Option Entries}

theorem ownLines_changeAt
    (hf : ∀ {es es' : Entries} {depth : Nat}, f (.headed place space) es = some es' →
      Sound m 0 depth true es → Sound m 0 depth true es' ∧ (places es').Perm (places es))
    {k : Key} {path : List Key} {kind : TableKind} {es es' : Entries}
    (h : changeAt f (k :: path) kind es = some es')
    (hkind : kindAt (k :: path) kind es = some (.headed place space)) (hes : Sound m own depth owned es) :
    ∀ path, ownLines path es' = ownLines path es := by
  have h : changeAt f (k :: path) .dotted es = some es' := h
  have hkind : kindAt (k :: path) .dotted es = some (.headed place space) := hkind
  exact (changeAt_sound hf h hkind hes nofun).2.2 rfl

/-- A line that is added to the table at the end of a path is added to the section of the table. -/
theorem changeAt_marks {mark : Mark} {all : List (Nat × List Mark)} {current : List String}
    (hf : ∀ {es es' : Entries} {depth : Nat}, f (.headed place space) es = some es' →
      Sound m 0 depth true es → Sound m 0 depth true es' ∧ (places es').Perm (places es))
    (hgrows : ∀ {es es' : Entries} {depth : Nat} {isArray : Bool} {pre : List Key},
      f (.headed place space) es = some es' → Sound m 0 depth true es → pre.map (·.name) = current →
      (tableSections isArray pre (.headed place space) es).map Section.marks ⊆ all →
      Grows place mark ((tableSections isArray pre (.headed place space) es).map Section.marks)
        ((tableSections isArray pre (.headed place space) es').map Section.marks))
    {path : List Key} {kind : TableKind} {es es' : Entries} (h : changeAt f path kind es = some es')
    (hkind : kindAt path kind es = some (.headed place space)) (hes : Sound m own depth owned es)
    (howned : ∀ place space, kind = .headed place space → own = 0 ∧ owned = true) {isArray : Bool}
    {pre : List Key} (hpre : (pre ++ path).map (·.name) = current)
    (hall : (tableSections isArray pre kind es).map Section.marks ⊆ all) :
    Grows place mark ((tableSections isArray pre kind es).map Section.marks)
      ((tableSections isArray pre kind es').map Section.marks) := by
  -- At the end of the path `hgrows` tells what is added; on the way back all sections around it stay.
  fun_induction changeAt f path kind es generalizing own depth owned es' isArray pre with
  | case1 kind es =>
      cases hkind
      obtain ⟨rfl, rfl⟩ := howned place space rfl
      exact hgrows h hes (by simpa using hpre) hall
  | case2 k path old es kind inside hfind ih =>
      obtain ⟨inside', hinside, heq⟩ := Option.bind_eq_some_iff.mp h
      cases heq
      have hchange : changeAt f (k :: path) old es = some (replace k.name (.table kind inside') es) := by
        simp [changeAt, hfind, hinside]
      have hown := ownLines_changeAt hf hchange hkind hes
      obtain ⟨own', owned', howned', hsound⟩ := hes.of_table hfind
      obtain ⟨before, k', after, hk', hold, hnew⟩ :=
        marks_sections_replace (.table kind inside') pre hfind
      rw [tableSections, tableSections, ownSection_congr hown, List.map_append, List.map_append, hold, hnew]
      rw [kindAt_of_table hfind] at hkind
      rw [tableSections, List.map_append, hold] at hall
      have hinner : Grows place mark ((tableSections false (pre ++ [k']) kind inside).map Section.marks)
          ((tableSections false (pre ++ [k']) kind inside').map Section.marks) :=
        ih hinside hkind hsound howned' (by simpa [hk'] using hpre)
          fun s hs => hall (by simp [itemSections_table, List.mem_map.mp hs])
      have hinner := hinner.inside ((ownSection isArray pre old es).map Section.marks ++ before) after
      rw [itemSections_table, itemSections_table]
      simpa using hinner
  | case3 => cases h
  | case4 k path old es elements hfind kind inside hlast ih =>
      obtain ⟨inside', hinside, heq⟩ := Option.bind_eq_some_iff.mp h
      cases heq
      have hchange : changeAt f (k :: path) old es =
          some (replace k.name (.tables (elements.dropLast ++ [(kind, inside')])) es) := by
        simp [changeAt, hfind, hlast, hinside]
      have hown := ownLines_changeAt hf hchange hkind hes
      have hsound := hes.of_last hfind hlast
      obtain ⟨before, k', after, hk', hold, hnew⟩ :=
        marks_sections_replace (.tables (elements.dropLast ++ [(kind, inside')])) pre hfind
      rw [tableSections, tableSections, ownSection_congr hown, List.map_append, List.map_append, hold, hnew]
      rw [kindAt_of_last hfind hlast] at hkind
      rw [tableSections, List.map_append, hold] at hall
      obtain ⟨elements, rfl⟩ := List.getLast?_eq_some_iff.mp hlast
      have hinner : Grows place mark ((tableSections true (pre ++ [k']) kind inside).map Section.marks)
          ((tableSections true (pre ++ [k']) kind inside').map Section.marks) :=
        ih hinside hkind hsound (fun _ _ _ => ⟨rfl, rfl⟩) (by simpa [hk'] using hpre)
          fun s hs => hall (by simp [itemSections_concat, List.mem_map.mp hs])
      have hinner := hinner.inside ((ownSection isArray pre old es).map Section.marks ++ before ++
        (elementSections (pre ++ [k']) elements).map Section.marks) after
      rw [List.dropLast_concat, itemSections_concat, itemSections_concat]
      simpa using hinner
  | case5 => cases h

end ChangeAt

/-- A tree whose sections are `ss`, in the order in which their headers were read: the headers have the paths
`headers`, and the entries of the last section, that of the table at the path `current`, have the paths `own`. -/
structure Arranged (m : Manner) (n : Nat) (current : List Key) (headers own : List (List String))
    (ss : List (Nat × List Mark)) (es : Entries) : Prop where
  standing : Standing m n current es
  kind : ∃ space, kindAt current root es = some (.headed n space)
  perm : ((tableSections false [] root es).map Section.marks).Perm ss
  ascending : ss.Pairwise fun a b => a.1 < b.1
  headed : ∀ s ∈ ss, ∃ header marks, s.2 = header :: marks ∧ header.1.path ∈ headers
  last : ∃ before header marks, ss = before ++ [(n, header :: marks)] ∧ marks.map (·.1.path) = own

def rootMark : Mark :=
  (Line.header false [] {}).mark

theorem arranged_nil : Arranged m 0 [] [[]] [] [(0, [rootMark])] [] where
  standing := standing_nil
  kind := ⟨{}, rfl⟩
  perm := .refl _
  ascending := List.pairwise_singleton ..
  headed s hs := by
    cases List.mem_singleton.mp hs
    exact ⟨rootMark, [], rfl, List.mem_singleton_self _⟩
  last := ⟨[], rootMark, [], rfl, rfl⟩

section Arranged

variable {n : Nat} {current : List Key} {headers ownKeys : List (List String)}
  {ss : List (Nat × List Mark)} {es es' : Entries}

theorem Arranged.before (h : Arranged m n current headers ownKeys ss es) {before : List (Nat × List Mark)}
    {marks : List Mark} (hss : ss = before ++ [(n, marks)]) : ∀ s ∈ before, s.1 < n := by
  intro s hs
  exact (List.pairwise_append.mp (hss ▸ h.ascending)).2.2 s hs _ (List.mem_singleton_self _)

/-- What stands under a key of the last section holds no headers, unless one of them goes on from it. -/
theorem Arranged.no_headers (h : Arranged m n current headers ownKeys ss es) {isArray : Bool}
    {pre : List Key} (hpre : pre.map (·.name) = current.map (·.name)) {kind : TableKind} {inside : Entries}
    (hall : (tableSections isArray pre kind inside).map Section.marks ⊆ ss) {name : String} {i : Item}
    (hfind : find? name inside = some i)
    (hfree : ∀ header ∈ headers, ¬ current.map (·.name) ++ [name] <+: header) : itemPlaces i = [] := by
  obtain ⟨before, k, after, rfl, rfl, -⟩ := exists_of_find? hfind
  by_contra hne
  rw [← places_itemSections (pre ++ [k])] at hne
  obtain ⟨s, hs⟩ := List.exists_mem_of_ne_nil _ (mt (congrArg (List.map Section.place)) hne)
  obtain ⟨isArray', rest, space, lines, hlines⟩ := header_of_mem_itemSections hs
  have hmem : s.marks ∈ ss := hall (List.mem_map_of_mem (by
    simp [tableSections, sections_append, sections, hs]))
  obtain ⟨header, marks, heq, hpath⟩ := h.headed _ hmem
  rw [Section.marks, hlines, List.map_cons] at heq
  obtain ⟨rfl, -⟩ := List.cons.inj heq
  refine hfree _ hpath ⟨rest.map (·.name), ?_⟩
  simp [Line.mark, Line.gist, Gist.path, hpre]

theorem Arranged.ownPaths (h : Arranged m n current headers ownKeys ss es) {isArray : Bool} {pre : List Key}
    {space : Space} {inside : Entries}
    (hall : (tableSections isArray pre (.headed n space) inside).map Section.marks ⊆ ss) :
    Entries.ownPaths inside = ownKeys := by
  obtain ⟨before, header, marks, rfl, hown⟩ := h.last
  have hmem : (n, (Line.header isArray pre space).mark :: (ownLines [] inside).map Line.mark) ∈
      before ++ [(n, header :: marks)] := hall (by simp [tableSections, ownSection, Section.marks])
  rcases List.mem_append.mp hmem with hmem | hmem
  · exact absurd (h.before rfl _ hmem) (Nat.lt_irrefl _)
  · obtain ⟨-, rfl⟩ : _ ∧ (ownLines [] inside).map Line.mark = marks := by simpa using hmem
    rw [← hown, List.map_map]
    rfl

/-- A line has been put at the end of the last section. -/
theorem Arranged.grow (h : Arranged m n current headers ownKeys ss es) {mark : Mark}
    (hstanding : Standing m n current es') (hkind : kindAt current root es' = kindAt current root es)
    (hgrows : Grows n mark ((tableSections false [] root es).map Section.marks)
      ((tableSections false [] root es').map Section.marks)) :
    ∃ ss', Arranged m n current headers (ownKeys ++ [mark.1.path]) ss' es' ∧
      ss'.flatMap (·.2) = ss.flatMap (·.2) ++ [mark] := by
  obtain ⟨before, header, marks, rfl, rfl⟩ := h.last
  refine ⟨before ++ [(n, header :: (marks ++ [mark]))], ?_, by simp⟩
  constructor
  · exact hstanding
  · exact hkind ▸ h.kind
  · exact hgrows.perm h.perm (h.before rfl)
  · exact List.pairwise_append.mpr ⟨(List.pairwise_append.mp h.ascending).1, List.pairwise_singleton ..,
      by simpa using h.before rfl⟩
  · intro s hs
    rcases List.mem_append.mp hs with hs | hs
    · exact h.headed s (List.mem_append_left _ hs)
    · obtain ⟨_, _, heq, hpath⟩ := h.headed _ (List.mem_append_right _ (List.mem_singleton_self _))
      obtain ⟨rfl, rfl⟩ := List.cons.inj heq
      cases List.mem_singleton.mp hs
      exact ⟨header, _, rfl, hpath⟩
  · exact ⟨before, header, _, rfl, List.map_append⟩

/-- An entry in order goes to the end of the last section. -/
theorem Arranged.entry (h : Arranged m n current headers ownKeys ss es) {path : List Key} {space : Space}
    {v : Value}
    (hadd : changeAt (fun kind es => addValue true kind (.value space v) path es) current root es =
      some es') (hline : (Line.entry path space v).Fits m)
    (htogether : Together (ownKeys ++ [path.map (·.name)]))
    (hfree : path.length = 1 ∨
      ∀ header ∈ headers, ¬ current.map (·.name) ++ (path.map (·.name)).take 1 <+: header) :
    ∃ ss', Arranged m n current headers (ownKeys ++ [path.map (·.name)]) ss' es' ∧
      ss'.flatMap (·.2) = ss.flatMap (·.2) ++ [(Line.entry path space v).mark] := by
  suffices hgrows : Grows n (Line.entry path space v).mark _ _ from
    h.grow (h.standing.entry hadd hline) (kindAt_changeAt hadd) hgrows
  obtain ⟨⟨-, hlength, hkeys⟩, hvalue⟩ := hline
  obtain ⟨header, hkind⟩ := h.kind
  have hsound {es es' : Entries} {depth : Nat}
      (hadd : addValue true (.headed n header) (.value space v) path es = some es')
      (hes : Sound m 0 depth true es) : Sound m 0 depth true es' ∧ (places es').Perm (places es) :=
    let ⟨hsound, hplaces, _⟩ := addValue_sound hadd hes hkeys (by omega) hvalue
    ⟨hsound, hplaces⟩
  refine changeAt_marks hsound (fun {es es' depth isArray pre} hadd hes hpre hall => ?_)
    hadd hkind h.standing.sound (fun _ _ _ => ⟨rfl, rfl⟩) rfl h.perm.subset
  obtain ⟨hmarks, hsections⟩ := addValue_order hadd hes (h.ownPaths hall ▸ htogether)
    fun k l rest i hpath hfind => by
      subst hpath
      exact h.no_headers hpre hall hfind (by simpa using hfree)
  refine ⟨[], (Line.header isArray pre header).mark :: (ownLines [] es).map Line.mark,
    (sections pre es).map Section.marks, ?_, ?_⟩
  · simp [tableSections, ownSection, Section.marks]
  · simp [tableSections, ownSection, Section.marks, hmarks, hsections]

theorem Arranged.header (h : Arranged m n current headers ownKeys ss es) {isArray : Bool}
    {path : List Key} {space : Space} (hstanding : Standing m (n + 1) path es')
    (hkind : kindAt path root es' = some (.headed (n + 1) space))
    (hlines : ∀ path, ownLines path es' = ownLines path es)
    (hsections : ∀ pre, ((sections pre es').map Section.marks).Perm
      (opened isArray (pre ++ path) (n + 1) space :: (sections pre es).map Section.marks)) :
    Arranged m (n + 1) path (headers ++ [path.map (·.name)]) []
      (ss ++ [opened isArray path (n + 1) space]) es' where
  standing := hstanding
  kind := ⟨space, hkind⟩
  perm := by
    have hall := perm_inside (hsections []) ((ownSection false [] root es).map Section.marks) []
    have hall : ((tableSections false [] root es').map Section.marks).Perm
        (opened isArray path (n + 1) space :: (tableSections false [] root es).map Section.marks) := by
      simpa [tableSections, ownSection_congr hlines] using hall
    exact hall.trans ((h.perm.cons _).trans (List.perm_append_singleton _ _).symm)
  ascending := by
    obtain ⟨before, first, marks, rfl, -⟩ := h.last
    refine List.pairwise_append.mpr ⟨h.ascending, List.pairwise_singleton .., fun s hs s' hs' => ?_⟩
    cases List.mem_singleton.mp hs'
    refine Nat.lt_succ_of_le ?_
    rcases List.mem_append.mp hs with hs | hs
    · exact Nat.le_of_lt (h.before rfl s hs)
    · cases List.mem_singleton.mp hs
      exact Nat.le_refl n
  headed s hs := by
    rcases List.mem_append.mp hs with hs | hs
    · obtain ⟨header, marks, heq, hpath⟩ := h.headed s hs
      exact ⟨header, marks, heq, List.mem_append_left _ hpath⟩
    · cases List.mem_singleton.mp hs
      exact ⟨_, [], rfl, List.mem_append_right _ (List.mem_singleton_self _)⟩
  last := ⟨ss, _, [], rfl, rfl⟩

theorem Arranged.lines {lines : List Line} (h : Arranged m n current headers ownKeys ss es)
    (hadd : addLines n current lines es = some es') (hlines : ∀ l ∈ lines, l.Fits m)
    (horder : InOrder headers (current.map (·.name)) ownKeys (lines.map Line.gist)) :
    ∃ n' current' headers' ownKeys' ss', Arranged m n' current' headers' ownKeys' ss' es' ∧
      ss'.flatMap (·.2) = ss.flatMap (·.2) ++ lines.map Line.mark := by
  fun_induction addLines n current lines es generalizing headers ownKeys ss with
  | case1 n current es =>
      cases hadd
      exact ⟨n, current, headers, ownKeys, ss, h, by simp⟩
  | case2 n current path space v lines es ih =>
      obtain ⟨es₁, hchange, hadd⟩ := Option.bind_eq_some_iff.mp hadd
      obtain ⟨hline, hlines⟩ := List.forall_mem_cons.mp hlines
      obtain ⟨htogether, hfree, horder⟩ := horder
      obtain ⟨ss₁, h₁, hmarks₁⟩ := h.entry hchange hline htogether (by simpa using hfree)
      obtain ⟨n', current', headers', ownKeys', ss', h', hmarks⟩ := ih es₁ h₁ hadd hlines horder
      exact ⟨n', current', headers', ownKeys', ss', h', by simp [hmarks, hmarks₁]⟩
  | case3 n current path space lines es ih =>
      obtain ⟨es₁, hopen, hadd⟩ := Option.bind_eq_some_iff.mp hadd
      obtain ⟨hline, hlines⟩ := List.forall_mem_cons.mp hlines
      obtain ⟨hown, hsections⟩ := openTable_marks hopen h.standing.sound
      have h₁ := h.header (h.standing.table hopen hline) (kindAt_openTable hopen h.standing.sound) hown hsections
      obtain ⟨n', current', headers', ownKeys', ss', h', hmarks⟩ := ih es₁ h₁ hadd hlines horder
      exact ⟨n', current', headers', ownKeys', ss', h', by simp [hmarks, opened]⟩
  | case4 n current path space lines es ih =>
      obtain ⟨es₁, hopen, hadd⟩ := Option.bind_eq_some_iff.mp hadd
      obtain ⟨hline, hlines⟩ := List.forall_mem_cons.mp hlines
      obtain ⟨hown, hsections⟩ := openElement_marks hopen h.standing.sound
      have h₁ := h.header (h.standing.element hopen hline) (kindAt_openElement hopen h.standing.sound) hown hsections
      obtain ⟨n', current', headers', ownKeys', ss', h', hmarks⟩ := ih es₁ h₁ hadd hlines horder
      exact ⟨n', current', headers', ownKeys', ss', h', by simp [hmarks, opened]⟩

theorem Arranged.marks_lines (h : Arranged m n current headers ownKeys ss es) :
    rootMark :: (Entries.lines es).map Line.mark = ss.flatMap (·.2) := by
  have hperm : ((ownSection false [] root es ++
      (sections [] es).mergeSort fun a b => a.place ≤ b.place).map Section.marks).Perm ss :=
    (((List.mergeSort_perm _ _).append_left _).map _).trans h.perm
  have hle : ((ownSection false [] root es ++
      (sections [] es).mergeSort fun a b => a.place ≤ b.place).map Section.marks).Pairwise
        fun a b => a.1 ≤ b.1 := by
    have hrest : ((sections [] es).mergeSort fun a b => a.place ≤ b.place).Pairwise
        fun a b => a.place ≤ b.place :=
      (List.pairwise_mergeSort (by simpa using fun a b c => Nat.le_trans)
        (by simpa using fun a b => Nat.le_total _ _) _).imp of_decide_eq_true
    exact List.pairwise_map.mpr (List.pairwise_cons.mpr ⟨fun _ _ => Nat.zero_le _, hrest⟩)
  have hnodup : (ss.map (·.1)).Nodup := List.pairwise_map.mpr (h.ascending.imp Nat.ne_of_lt)
  have hsorted := hperm.eq_of_pairwise
    (fun a b ha hb hab hba => List.inj_on_of_nodup_map hnodup (hperm.subset ha) hb (Nat.le_antisymm hab hba))
    hle (h.ascending.imp Nat.le_of_lt)
  rw [← hsorted]
  simp [ownSection, root, Entries.lines, rootMark, Section.marks, List.flatMap_map, List.map_flatMap]

end Arranged

/-- Lines in order that fit build up a tree whose lines are written in the order in which they were read. -/
theorem marks_ofLines? {lines : List Line} {es : Entries} (h : ofLines? lines = some es)
    (hlines : ∀ l ∈ lines, l.Fits m) (horder : InOrder [[]] [] [] (lines.map Line.gist)) :
    (Entries.lines es).map Line.mark = lines.map Line.mark := by
  obtain ⟨n, current, headers, ownKeys, ss, harranged, hmarks⟩ := arranged_nil.lines h hlines horder
  have hall := harranged.marks_lines.trans hmarks
  exact (List.cons.inj hall).2

end ServerLink.Toml.Entries
