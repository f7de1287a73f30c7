import ServerLink.Proofs.Toml.Stage

/-!
The lines of a sound tree build up a tree with the same values again. The header of a section finds what the
headers in front of it have left there, and the section takes the shape of the tree one place on.
-/

namespace ServerLink.Toml

open Function (update)

namespace Shape

theorem into_bind (create : Bool) (f g : Origin → Shapes → Option Shapes) (i : Option Shape) :
    into create (fun origin s => (f origin s).bind (g origin)) i =
      (into create f i).bind fun j => into false g (some j) := by
  cases i with
  | none =>
      cases create with
      | false => rfl
      | true =>
          simp only [into, if_true]
          cases f .inner Shapes.empty <;> rfl
  | some i =>
      cases i with
      | value => rfl
      | table origin s =>
          simp only [into]
          cases f origin s <;> rfl
      | tables elements =>
          cases hlast : elements.getLast? with
          | none => simp [into, hlast]
          | some e =>
              obtain ⟨origin, s⟩ := e
              cases h : f origin s <;> simp [into, hlast, h]

theorem along_bind (create : Bool) (f g : Option Shape → Option Shape) (path : List String)
    (i : Option Shape) :
    along create (fun i => (f i).bind fun j => g (some j)) path i =
      (along create f path i).bind fun j => along false g path (some j) := by
  induction path generalizing i with
  | nil => rfl
  | cons name path ih =>
      rw [along, along]
      simp only [along]
      rw [← into_bind]
      congr 1
      funext origin s
      rw [ih]
      cases along create f path (s name) with
      | none => rfl
      | some j => simp

/-- What the header of a section and the lines below it change. -/
def sectionLeaf (isArray : Bool) (gists : List Gist) (i : Option Shape) : Option Shape :=
  (opening isArray i).bind fun j =>
    into false (fun origin => addAll (origin != .path) gists) (some j)

theorem into_id {f : Origin → Shapes → Option Shapes} (hf : ∀ origin s s', f origin s = some s' → s' = s)
    {i : Option Shape} {j : Shape} (h : into false f i = some j) : i = some j := by
  cases i with
  | none => cases h
  | some i =>
      cases i with
      | value => cases h
      | table origin s =>
          obtain ⟨s', hs', rfl⟩ := Option.map_eq_some_iff.mp h
          rw [hf origin s s' hs']
      | tables elements =>
          cases hlast : elements.getLast? with
          | none => simp [into, hlast] at h
          | some e =>
              obtain ⟨elements, rfl⟩ := List.getLast?_eq_some_iff.mp hlast
              simp only [into, hlast] at h
              obtain ⟨s', hs', rfl⟩ := Option.map_eq_some_iff.mp h
              rw [hf _ _ _ hs', List.dropLast_concat]

theorem along_id {path : List String} {i : Option Shape} {j : Shape}
    (h : along false (into false fun _ s => some s) path i = some j) : i = some j := by
  induction path generalizing i j with
  | nil => exact into_id (fun _ _ _ h => (Option.some.inj h).symm) h
  | cons name path ih =>
      refine into_id (fun _ s s' h => ?_) h
      obtain ⟨k, hk, rfl⟩ := Option.map_eq_some_iff.mp h
      rw [← ih hk, Function.update_eq_self]

theorem run_entries {path : List String} {gists rest : List Gist} {i j : Shape}
    (hentries : ∀ g ∈ gists, ∃ path sense, path ≠ [] ∧ g = .entry path sense)
    (h : along false (into false fun origin => addAll (origin != .path) gists) path (some i) = some j) :
    run path (gists ++ rest) i = run path rest j := by
  induction gists generalizing i with
  | nil =>
      cases along_id h
      rfl
  | cons g gists ih =>
      obtain ⟨⟨p, sense, -, rfl⟩, hrest⟩ := List.forall_mem_cons.mp hentries
      have hsplit : (into false fun origin => addAll (origin != .path) (.entry p sense :: gists)) =
          fun i => (into false (fun origin s => add sense (origin != .path) p s) i).bind fun j =>
            into false (fun origin => addAll (origin != .path) gists) (some j) := by
        funext i
        rw [← into_bind]
        rfl
      rw [hsplit, along_bind] at h
      obtain ⟨k, hk, h⟩ := Option.bind_eq_some_iff.mp h
      rw [List.cons_append, run, hk, Option.bind_some, ih hrest h]

theorem run_section {isArray : Bool} {current path : List String} {gists rest : List Gist}
    {i j : Shape} (hgists : ∀ g ∈ gists, ∃ path sense, path ≠ [] ∧ g = .entry path sense)
    (h : along true (sectionLeaf isArray gists) path (some i) = some j) :
    run current (.header isArray path :: gists ++ rest) i = run path rest j := by
  have hsplit := along_bind true (opening isArray)
    (into false fun origin => addAll (origin != .path) gists) path (some i)
  obtain ⟨k, hk, h⟩ := Option.bind_eq_some_iff.mp (hsplit.symm.trans h)
  rw [List.cons_append, run, hk, Option.bind_some, run_entries hgists h]

end Shape

namespace Entries

variable {m : Manner}

/-- A section changes what stands at the end of a path before it to what stands there after it. -/
def Section.Builds (s : Section) (path : List Key) (before after : Option Shape) : Prop :=
  ∃ isArray rest space es j, s.lines = .header isArray (path ++ rest) space :: ownLines [] es ∧
    Shape.along true (Shape.sectionLeaf isArray ((ownLines [] es).map Line.gist))
      (rest.map (·.name)) before = some j ∧ after = some j

theorem Section.Builds.inside {s : Section} {path : List Key} {k : Key} {before after : Shapes}
    (h : s.Builds (path ++ [k]) (before k.name) (after k.name))
    (hrest : ∀ name, name ≠ k.name → after name = before name) {i : Option Shape} {j : Shape}
    (hinto : ∀ f : Shapes → Option Shapes, f before = some after →
      Shape.into true (fun _ => f) i = some j) : s.Builds path i (some j) := by
  obtain ⟨isArray, rest, space, es, l, hlines, halong, hafter⟩ := h
  refine ⟨isArray, k :: rest, space, es, j, by rw [hlines, List.append_assoc]; rfl, ?_, rfl⟩
  refine hinto (fun s => _) ?_
  rw [halong, Option.map_some]
  refine congrArg some (funext fun name => ?_)
  by_cases hname : name = k.name
  · rw [hname, Function.update_self, hafter]
  · rw [Function.update_of_ne hname, hrest name hname]

theorem liveIn_succ {kind : TableKind} {q : Nat} (hkind : q ∉ kindPlaces kind) (live : Bool) :
    liveIn q live kind = liveIn (q + 1) live kind :=
  liveIn_congr (fun p hp => by
    have hne : p ≠ q := fun h => hkind (h ▸ hp)
    omega) live

theorem stage_succ {es : Entries} {q : Nat} (h : q ∉ places es) (live : Bool) :
    stage q live es = stage (q + 1) live es :=
  stage_congr live fun p hp => by
    have hne : p ≠ q := fun heq => h (heq ▸ hp)
    omega

theorem itemStage_succ {i : Item} {q : Nat} (h : q ∉ itemPlaces i) (live : Bool) :
    itemStage q live i = itemStage (q + 1) live i :=
  itemStage_congr live fun p hp => by
    have hne : p ≠ q := fun heq => h (heq ▸ hp)
    omega

/-- When a header inside a table is read, the table stands there afterwards, as before or newly opened. -/
theorem standsAs_succ {kind : TableKind} {es : Entries} {q : Nat} (hkind : q ∉ kindPlaces kind)
    (hmem : q ∈ places es) (live : Bool) :
    ∃ origin, standsAs (q + 1) live kind es = some origin ∧
      (standsAs q live kind es = some origin ∨
        standsAs q live kind es = none ∧ origin = .inner ∧
          stage q (liveIn q live kind) es = Shapes.empty) := by
  have hseen : ∃ p ∈ places es, p < q + 1 := ⟨q, hmem, Nat.lt_succ_self q⟩
  rw [standsAs, standsAs, ← liveIn_succ hkind]
  by_cases hown : liveIn q live kind = true ∧ (kind = .dotted → ownLines [] es ≠ [])
  · exact ⟨kind.origin, if_pos hown, .inl (if_pos hown)⟩
  · rw [if_neg hown, if_pos hseen, if_neg hown]
    by_cases hbefore : ∃ p ∈ places es, p < q
    · exact ⟨.inner, rfl, .inl (if_pos hbefore)⟩
    · have hunseen : ∀ p ∈ places es, q ≤ p :=
        fun p hp => Nat.le_of_not_lt fun hlt => hbefore ⟨p, hp, hlt⟩
      refine ⟨.inner, rfl, .inr ⟨if_neg hbefore, rfl, ?_⟩⟩
      cases hlive : liveIn q live kind with
      | false => exact stage_unseen hunseen
      | true =>
          have hnil : ownLines [] es = [] := Decidable.byContradiction fun hne =>
            hown ⟨hlive, fun _ => hne⟩
          rw [stage_live hnil, stage_unseen hunseen]

theorem Section.Builds.table {s : Section} {path : List Key} {k : Key} {kind : TableKind}
    {es : Entries} {live : Bool} (hkind : s.place ∉ kindPlaces kind) (hmem : s.place ∈ places es)
    (h : s.Builds (path ++ [k]) (stage s.place (liveIn s.place live kind) es k.name)
      (stage (s.place + 1) (liveIn s.place live kind) es k.name))
    (hrest : ∀ name, name ≠ k.name → stage (s.place + 1) (liveIn s.place live kind) es name =
      stage s.place (liveIn s.place live kind) es name) :
    s.Builds path (itemStage s.place live (.table kind es))
      (itemStage (s.place + 1) live (.table kind es)) := by
  obtain ⟨origin, hafter, hbefore⟩ := standsAs_succ hkind hmem live
  rw [itemStage, itemStage, hafter, Option.map_some, ← liveIn_succ hkind]
  refine h.inside hrest fun f hf => ?_
  rcases hbefore with hbefore | ⟨hbefore, rfl, hempty⟩
  · rw [hbefore, Option.map_some, Shape.into, hf, Option.map_some]
  · rw [hempty] at hf
    rw [hbefore, Option.map_none, Shape.into, if_pos rfl, hf, Option.map_some]

theorem builds_headed {own depth : Nat} {owned : Bool} {path : List Key} {place : Nat} {space : Space}
    {es : Entries} {live : Bool} (hes : Sound m own depth owned es) (hplace : place ∉ places es) :
    Section.Builds ⟨place, .header false path space :: ownLines [] es⟩ path
      (itemStage place live (.table (.headed place space) es))
      (itemStage (place + 1) live (.table (.headed place space) es)) := by
  have hopen : Shape.opening false (itemStage place live (.table (.headed place space) es)) =
      some (.table .header (stage place false es)) := by
    by_cases hseen : ∃ p ∈ places es, p < place
    · simp [itemStage, standsAs, liveIn, hseen, Shape.opening, Shape.openTable]
    · have hunseen : ∀ p ∈ places es, place ≤ p :=
        fun p hp => Nat.le_of_not_lt fun hlt => hseen ⟨p, hp, hlt⟩
      rw [stage_unseen hunseen, itemStage, standsAs, if_neg (by simp [liveIn]), if_neg hseen]
      rfl
  refine ⟨false, [], space, es, .table .header (stage place true es), by rw [List.append_nil], ?_, ?_⟩
  · have hadd : Shape.addAll (Origin.header != .path) _ _ = _ := addAll_stage (t := place) hes
    rw [List.map_nil, Shape.along, Shape.sectionLeaf, hopen, Option.bind_some, Shape.into, hadd,
      Option.map_some]
  · rw [stage_succ hplace]
    simp [itemStage, standsAs, liveIn, TableKind.origin]

theorem openElement_rowShape (elements : List (Origin × Shapes)) :
    Shape.openElement (rowShape elements) = some (.tables (elements ++ [(.header, Shapes.empty)])) := by
  cases elements <;> rfl

theorem into_cons {create : Bool} {f : Origin → Shapes → Option Shapes}
    {elements more : List (Origin × Shapes)} (hne : elements ≠ [])
    (h : Shape.into create f (some (.tables elements)) = some (.tables more)) (e : Origin × Shapes) :
    Shape.into create f (some (.tables (e :: elements))) = some (.tables (e :: more)) := by
  obtain ⟨elements, ⟨origin, s⟩, rfl⟩ := (List.eq_nil_or_concat elements).resolve_left hne
  rw [List.concat_eq_append] at h ⊢
  rw [← List.cons_append]
  simp only [Shape.into, List.getLast?_concat, List.dropLast_concat, Option.map_eq_some_iff] at h ⊢
  obtain ⟨s', hs', heq⟩ := h
  cases heq
  exact ⟨s', hs', rfl⟩

/-- A section of a later table of a row leaves the earlier ones as they are. -/
theorem Section.Builds.row {s : Section} {path : List Key} {before after : List (Origin × Shapes)}
    (h : s.Builds path (rowShape before) (rowShape after)) (e : Origin × Shapes) :
    s.Builds path (rowShape (e :: before)) (rowShape (e :: after)) := by
  obtain ⟨isArray, rest, space, es, j, hlines, halong, hafter⟩ := h
  obtain rfl : j = .tables after := by
    cases after <;> cases hafter
    rfl
  refine ⟨isArray, rest, space, es, _, hlines, ?_, rfl⟩
  cases rest with
  | nil =>
      rw [List.map_nil, Shape.along, Shape.sectionLeaf] at halong ⊢
      cases isArray with
      | true =>
          rw [Shape.opening, if_pos rfl, openElement_rowShape, Option.bind_some] at halong ⊢
          exact into_cons (by simp) halong e
      | false =>
          cases before with
          | nil =>
              obtain ⟨s, -, heq⟩ := Option.map_eq_some_iff.mp halong
              cases heq
          | cons => cases halong
  | cons k rest =>
      rw [List.map_cons, Shape.along] at halong ⊢
      cases before with
      | nil =>
          obtain ⟨s, -, heq⟩ := Option.map_eq_some_iff.mp halong
          cases heq
      | cons => exact into_cons (List.cons_ne_nil _ _) halong e

variable {own depth : Nat} {owned : Bool}

theorem builds_element {path : List Key} {place : Nat} {space : Space} {es : Entries}
    {elements : List (TableKind × Entries)} (hes : Sound m own depth owned es)
    (hinside : ∀ p ∈ places es, place < p) (hbehind : ∀ p ∈ elementPlaces elements, place < p) :
    Section.Builds ⟨place, .header true path space :: ownLines [] es⟩ path
      (rowShape (rowStage place ((.headed place space, es) :: elements)))
      (rowShape (rowStage (place + 1) ((.headed place space, es) :: elements))) := by
  have hadd : Shape.addAll (Origin.header != .path) _ _ = _ := addAll_stage (t := place) hes
  rw [stage_unseen fun p hp => Nat.le_of_lt (hinside p hp)] at hadd
  refine ⟨true, [], space, es, .tables [(.header, stage place true es)], by rw [List.append_nil], ?_, ?_⟩
  · have hopen : Shape.opening true (rowShape (rowStage place ((.headed place space, es) :: elements))) =
        some (.tables [(.header, Shapes.empty)]) := by
      simp [rowStage, liveIn, rowShape, Shape.opening, Shape.openElement]
    rw [List.map_nil, Shape.along, Shape.sectionLeaf, hopen, Option.bind_some, Shape.into]
    simp only [List.getLast?_singleton, hadd, Option.map_some]
    rfl
  · have hplace : place ∉ places es := fun hmem => Nat.lt_irrefl place (hinside place hmem)
    rw [rowStage, rowStage_unseen hbehind, stage_succ hplace]
    simp [liveIn, rowShape, TableKind.origin]

theorem Section.Builds.last {s : Section} {path : List Key} {k : Key} {place : Nat} {space : Space}
    {es : Entries} {elements : List (TableKind × Entries)} (hplace : place < s.place)
    (hbehind : ∀ p ∈ elementPlaces elements, s.place < p)
    (h : s.Builds (path ++ [k]) (stage s.place true es k.name) (stage (s.place + 1) true es k.name))
    (hrest : ∀ name, name ≠ k.name → stage (s.place + 1) true es name = stage s.place true es name) :
    s.Builds path (rowShape (rowStage s.place ((.headed place space, es) :: elements)))
      (rowShape (rowStage (s.place + 1) ((.headed place space, es) :: elements))) := by
  have hlive (t : Nat) (ht : s.place ≤ t) : liveIn t false (.headed place space) = true := by
    simpa [liveIn] using Nat.lt_of_lt_of_le hplace ht
  rw [rowStage, rowStage, hlive _ (Nat.le_refl _), hlive _ (Nat.le_succ _), rowStage_unseen hbehind,
    rowStage_unseen fun p hp => Nat.le_of_lt (hbehind p hp)]
  exact h.inside hrest fun f hf => by simp [rowShape, Shape.into, hf]

theorem places_ownSection (isArray : Bool) (path : List Key) (kind : TableKind) (es : Entries) :
    (ownSection isArray path kind es).map (·.place) = kindPlaces kind := by
  cases kind <;> rfl

mutual

theorem places_itemSections (path : List Key) : ∀ i : Item,
    (itemSections path i).map (·.place) = itemPlaces i
  | .value .. => rfl
  | .table kind es => by
      rw [itemSections, List.map_append, places_ownSection, places_sections path es, itemPlaces]
  | .tables elements => places_elementSections path elements

theorem places_sections (path : List Key) : ∀ es : List (Key × Item),
    (sections path es).map (·.place) = places es
  | [] => rfl
  | (k, i) :: es => by
      rw [sections, List.map_append, places_itemSections, places_sections path es, places]

theorem places_elementSections (path : List Key) : ∀ elements : List (TableKind × List (Key × Item)),
    (elementSections path elements).map (·.place) = elementPlaces elements
  | [] => rfl
  | (kind, es) :: elements => by
      rw [elementSections, List.map_append, List.map_append, places_ownSection, places_sections path es,
        places_elementSections path elements, elementPlaces]

end

theorem place_mem_sections {path : List Key} {es : Entries} {s : Section} (h : s ∈ sections path es) :
    s.place ∈ places es := by
  rw [← places_sections path es]
  exact List.mem_map_of_mem h

theorem place_mem_itemSections {path : List Key} {i : Item} {s : Section}
    (h : s ∈ itemSections path i) : s.place ∈ itemPlaces i := by
  rw [← places_itemSections path i]
  exact List.mem_map_of_mem h

theorem place_mem_elementSections {path : List Key} {elements : List (TableKind × Entries)}
    {s : Section} (h : s ∈ elementSections path elements) : s.place ∈ elementPlaces elements := by
  rw [← places_elementSections path elements]
  exact List.mem_map_of_mem h

theorem ItemFits.inside {k : Key} {own depth : Nat} {owned : Bool} {kind : TableKind} {es : Entries}
    (h : ItemFits m k own depth owned (.table kind es)) :
    ∃ own' owned', (names es).Nodup ∧ Fits m own' depth owned' es := by
  cases kind with
  | headed place space => exact ⟨0, true, h.2.2.2.1, h.2.2.2.2⟩
  | implied => exact ⟨own, false, h.2.2.1, h.2.2.2⟩
  | dotted => exact ⟨own, true, h.2.2.2.1, h.2.2.2.2⟩

theorem mem_names_of_stage {t : Nat} {live : Bool} {es : Entries} {name : String} {j : Shape}
    (h : stage t live es name = some j) : name ∈ names es :=
  Decidable.byContradiction fun hnot => by
    rw [stage_of_not_mem hnot] at h
    cases h

mutual

theorem itemSections_build {k : Key} : ∀ {i : Item} {own depth : Nat} {owned : Bool}
    {path : List Key} {s : Section}, ItemFits m k own depth owned i → (itemPlaces i).Nodup →
    s ∈ itemSections path i → ∀ live, s.Builds path (itemStage s.place live i)
      (itemStage (s.place + 1) live i)
  | .value .., _, _, _, _, _, _, _, hs, _ => by cases hs
  | .table kind es, own, depth, owned, path, s, hi, hnodup, hs, live => by
      obtain ⟨-, hplaces, hdisjoint⟩ := List.nodup_append.mp hnodup
      obtain ⟨own', owned', hnames, hes⟩ := hi.inside
      rcases List.mem_append.mp hs with hs | hs
      · cases kind with
        | headed place space =>
            cases List.mem_singleton.mp hs
            exact builds_headed ⟨hnames, hes⟩ fun hmem =>
              hdisjoint place (List.mem_singleton.mpr rfl) place hmem rfl
        | implied | dotted => cases hs
      · have hmem := place_mem_sections hs
        obtain ⟨l, hbuilds, hrest⟩ :=
          sections_build hes hnames hplaces hs (liveIn s.place live kind)
        exact hbuilds.table (fun hkind => hdisjoint _ hkind _ hmem rfl) hmem hrest
  | .tables elements, _, _, _, _, s, hi, hnodup, hs, _ => elementSections_build hi.2.2.2 hnodup hs

/-- Each section builds on at one key of the table in which it stands. -/
theorem sections_build : ∀ {es : List (Key × Item)} {own depth : Nat} {owned : Bool}
    {path : List Key} {s : Section}, Fits m own depth owned es → (names es).Nodup →
    (places es).Nodup → s ∈ sections path es → ∀ live, ∃ k : Key,
      s.Builds (path ++ [k]) (stage s.place live es k.name) (stage (s.place + 1) live es k.name) ∧
      ∀ name, name ≠ k.name → stage (s.place + 1) live es name = stage s.place live es name
  | [], _, _, _, _, _, _, _, _, hs, _ => by cases hs
  | (k, i) :: es, own, depth, owned, path, s, hes, hnames, hnodup, hs, live => by
      obtain ⟨⟨-, hi⟩, hes⟩ := hes
      obtain ⟨hk, hnames⟩ : k.name ∉ names es ∧ (names es).Nodup := List.nodup_cons.mp hnames
      obtain ⟨hitem, hplaces, hdisjoint⟩ := List.nodup_append.mp hnodup
      rcases List.mem_append.mp hs with hs | hs
      · have hmem := place_mem_itemSections hs
        have hother : s.place ∉ places es := fun h => hdisjoint _ hmem _ h rfl
        refine ⟨k, ?_, fun name hname => ?_⟩
        · rw [stage, stage, if_pos rfl, if_pos rfl]
          exact itemSections_build hi hitem hs live
        · rw [stage, stage, if_neg hname.symm, if_neg hname.symm, stage_succ hother]
      · have hmem := place_mem_sections hs
        have hother : s.place ∉ itemPlaces i := fun h => hdisjoint _ h _ hmem rfl
        obtain ⟨l, hbuilds, hrest⟩ := sections_build hes hnames hplaces hs live
        have hl : l.name ∈ names es := by
          obtain ⟨-, -, -, -, j, -, -, hj⟩ := hbuilds
          exact mem_names_of_stage hj
        have hne : k.name ≠ l.name := fun h => hk (h ▸ hl)
        refine ⟨l, ?_, fun name hname => ?_⟩
        · rw [stage, stage, if_neg hne, if_neg hne]
          exact hbuilds
        · rw [stage, stage, itemStage_succ hother, hrest name hname]

theorem elementSections_build : ∀ {elements : List (TableKind × List (Key × Item))} {depth : Nat}
    {path : List Key} {s : Section}, ElementsFit m depth elements → (elementPlaces elements).Nodup →
    s ∈ elementSections path elements → s.Builds path (rowShape (rowStage s.place elements))
      (rowShape (rowStage (s.place + 1) elements))
  | [], _, _, _, _, _, hs => by cases hs
  | (kind, es) :: elements, depth, path, s, hfit, hnodup, hs => by
      obtain ⟨⟨place, space, rfl, hspace, hinside⟩, hascend, ⟨hnames, hes⟩, hrow⟩ := hfit
      obtain ⟨hfirst, hplaces, -⟩ := List.nodup_append.mp hnodup
      obtain ⟨-, hfirst, -⟩ := List.nodup_append.mp hfirst
      have hplace : place ∈ kindPlaces (.headed place space) ++ places es := List.mem_cons_self
      rcases List.mem_append.mp hs with hs | hs
      · rcases List.mem_append.mp hs with hs | hs
        · cases List.mem_singleton.mp hs
          exact builds_element ⟨hnames, hes⟩ hinside (hascend place hplace)
        · have hmem := place_mem_sections hs
          obtain ⟨l, hbuilds, hrest⟩ := sections_build hes hnames hfirst hs true
          exact hbuilds.last (hinside _ hmem) (hascend _ (List.mem_append_right _ hmem)) hrest
      · have hmem := place_mem_elementSections hs
        have hbefore := hascend place hplace _ hmem
        have hother : s.place ∉ places es := fun h =>
          Nat.lt_irrefl _ (hascend _ (List.mem_append_right _ h) _ hmem)
        have hlive (t : Nat) (ht : s.place ≤ t) : liveIn t false (.headed place space) = true := by
          simpa [liveIn] using Nat.lt_of_lt_of_le hbefore ht
        rw [rowStage, rowStage, hlive _ (Nat.le_refl _), hlive _ (Nat.le_succ _), if_pos rfl,
          if_pos rfl, stage_succ hother]
        exact (elementSections_build hrow hplaces hs).row _

end

variable {own depth : Nat} {owned : Bool}

theorem run_lines {es : Entries} (hes : Sound m own depth owned es) (hnodup : (places es).Nodup)
    {s : Section} (hs : s ∈ sections [] es) (current : List String) :
    ∃ next, ∀ rest, Shape.run current (s.lines.map Line.gist ++ rest)
        (.table .header (stage s.place true es)) =
      Shape.run next rest (.table .header (stage (s.place + 1) true es)) := by
  obtain ⟨k, hbuilds, hrest⟩ := sections_build hes.fits hes.nodup hnodup hs true
  have hroot : s.Builds [] (some (.table .header (stage s.place true es)))
      (some (.table .header (stage (s.place + 1) true es))) :=
    hbuilds.inside hrest fun f hf => by rw [Shape.into, hf, Option.map_some]
  obtain ⟨isArray, path, space, inside, j, hlines, halong, hafter⟩ := hroot
  cases hafter
  refine ⟨path.map (·.name), fun rest => ?_⟩
  rw [hlines]
  exact Shape.run_section (fun g => gists_ownLines) halong

/-- The sections that are left, in the order of their places, take the shape of a document to its end. -/
theorem run_sections {es : Entries} (hes : Sound m own depth owned es) (hnodup : (places es).Nodup)
    {left : List Section} (hleft : left.Pairwise fun a b => a.place < b.place) {t : Nat}
    (current : List String) (hmem : ∀ s ∈ left, s ∈ sections [] es ∧ t ≤ s.place)
    (hplaces : ∀ p ∈ places es, p < t ∨ ∃ s ∈ left, s.place = p) :
    ∃ u, (∀ p ∈ places es, p < u) ∧
      Shape.run current ((left.flatMap Section.lines).map Line.gist) (.table .header (stage t true es)) =
        some (.table .header (stage u true es)) := by
  induction left generalizing t current with
  | nil =>
      refine ⟨t, fun p hp => (hplaces p hp).resolve_right ?_, rfl⟩
      rintro ⟨s, hs, -⟩
      cases hs
  | cons s left ih =>
      obtain ⟨hfirst, hleft⟩ := List.pairwise_cons.mp hleft
      obtain ⟨⟨hs, ht⟩, hmem⟩ := List.forall_mem_cons.mp hmem
      have hcases : ∀ p ∈ places es, p < t ∨ p = s.place ∨ ∃ s' ∈ left, s'.place = p := by
        intro p hp
        rcases hplaces p hp with hlt | ⟨s', hs', rfl⟩
        · exact .inl hlt
        · rcases List.mem_cons.mp hs' with rfl | hs'
          · exact .inr (.inl rfl)
          · exact .inr (.inr ⟨s', hs', rfl⟩)
      have hsame : stage t true es = stage s.place true es := stage_congr true fun p hp => by
        rcases hcases p hp with hlt | rfl | ⟨s', hs', rfl⟩
        · omega
        · omega
        · have hbehind := hfirst s' hs'
          omega
      obtain ⟨next, hnext⟩ := run_lines hes hnodup hs current
      obtain ⟨u, hu, hrun⟩ := ih hleft next
        (fun s' hs' => ⟨(hmem s' hs').1, hfirst s' hs'⟩) fun p hp => by
          rcases hcases p hp with hlt | rfl | hlater
          · exact .inl (by omega)
          · exact .inl (Nat.lt_succ_self _)
          · exact .inr hlater
      refine ⟨u, hu, ?_⟩
      rw [List.flatMap_cons, List.map_append, hsame, hnext, hrun]

theorem sections_sorted {es : Entries} (hnodup : (places es).Nodup) :
    ((sections [] es).mergeSort fun a b => a.place ≤ b.place).Pairwise
      fun a b => a.place < b.place := by
  have hle : ((sections [] es).mergeSort fun a b => a.place ≤ b.place).Pairwise
      fun a b => decide (a.place ≤ b.place) = true :=
    List.pairwise_mergeSort (by simpa using fun a b c => Nat.le_trans)
      (by simpa using fun a b => Nat.le_total _ _) _
  have hne : (((sections [] es).mergeSort fun a b => a.place ≤ b.place).map (·.place)).Nodup :=
    ((List.mergeSort_perm _ _).map _).nodup_iff.mpr ((places_sections [] es).symm ▸ hnodup)
  refine (hle.and (List.pairwise_map.mp hne)).imp fun ⟨hle, hne⟩ => ?_
  exact Nat.lt_of_le_of_ne (of_decide_eq_true hle) hne

theorem run_all {es : Entries} (hes : Sound m own depth owned es) (hnodup : (places es).Nodup) :
    ∃ u, (∀ p ∈ places es, p < u) ∧
      Shape.run [] ((lines es).map Line.gist) (rootShape []) =
        some (.table .header (stage u true es)) := by
  have hadd : Shape.addAll (Origin.header != .path) _ _ = _ := addAll_stage (t := 0) hes
  rw [stage_unseen fun p _ => Nat.zero_le p] at hadd
  have hown : Shape.along false (Shape.into false fun origin =>
      Shape.addAll (origin != .path) ((ownLines [] es).map Line.gist)) [] (some (rootShape [])) =
      some (.table .header (stage 0 true es)) := by
    rw [Shape.along, rootShape, shapes_nil, Shape.into, hadd, Option.map_some]
  obtain ⟨u, hu, hrun⟩ := run_sections hes hnodup (sections_sorted hnodup) []
    (fun s hs => ⟨List.mem_mergeSort.mp hs, Nat.zero_le _⟩) fun p hp => by
      rw [← places_sections []] at hp
      obtain ⟨s, hs, rfl⟩ := List.mem_map.mp hp
      exact .inr ⟨s, List.mem_mergeSort.mpr hs, rfl⟩
  refine ⟨u, hu, ?_⟩
  rw [lines, List.map_append, Shape.run_entries (fun g => gists_ownLines) hown, hrun]

theorem standsAs_last {k : Key} {own depth u : Nat} {owned : Bool} {kind : TableKind} {es : Entries}
    (hi : ItemFits m k own depth owned (.table kind es))
    (hu : ∀ p ∈ itemPlaces (.table kind es), p < u) :
    ∃ origin own', standsAs u owned kind es = some origin ∧
      Fits m own' depth (liveIn u owned kind) es := by
  obtain ⟨hkind, hes⟩ := List.forall_mem_append.mp hu
  have hseen (hne : places es ≠ []) : ∃ p ∈ places es, p < u := by
    obtain ⟨p, ps, hp⟩ := List.exists_cons_of_ne_nil hne
    have hmem : p ∈ places es := hp ▸ List.mem_cons_self
    exact ⟨p, hmem, hes p hmem⟩
  cases kind with
  | headed place space =>
      have hlive : liveIn u owned (.headed place space) = true := by
        simpa [liveIn] using hkind place (List.mem_singleton.mpr rfl)
      rw [hlive]
      exact ⟨.header, 0, if_pos ⟨hlive, nofun⟩, hi.2.2.2.2⟩
  | implied =>
      obtain ⟨-, hne, -, hfits⟩ := hi
      exact ⟨.inner, own, (if_neg (by simp [liveIn])).trans (if_pos (hseen hne)), hfits⟩
  | dotted =>
      obtain ⟨rfl, -, hne, -, hfits⟩ := hi
      by_cases hown : ownLines [] es = []
      · have hrefused : ¬ (liveIn u true .dotted = true ∧
            (TableKind.dotted = .dotted → ownLines [] es ≠ [])) := fun h => h.2 rfl hown
        exact ⟨.inner, own, (if_neg hrefused).trans
          (if_pos (hseen (hne.resolve_left fun h => h hown))), hfits⟩
      · exact ⟨.path, own, if_pos ⟨rfl, fun _ => hown⟩, hfits⟩

mutual

theorem sense_itemStage {k : Key} {u : Nat} : ∀ {i : Item} {own depth : Nat} {owned : Bool},
    ItemFits m k own depth owned i → (∀ p ∈ itemPlaces i, p < u) →
    shapeSense? (itemStage u owned i) = some (itemContent i).sense
  | .value space v, _, _, _, hi, _ => by
      obtain ⟨rfl, -⟩ := hi
      rfl
  | .table kind es, own, depth, owned, hi, hu => by
      obtain ⟨origin, own', hstands, hes⟩ := standsAs_last hi hu
      have hsense := sense_stage hes (List.forall_mem_append.mp hu).2
      rw [itemStage, hstands]
      exact congrArg (some ∘ Sense.table) (funext hsense)
  | .tables elements, _, _, _, hi, hu => by
      obtain ⟨-, -, hne, hfit⟩ := hi
      have hsense := sense_rowStage hfit hu
      cases hrow : rowStage u elements with
      | nil =>
          cases elements with
          | nil => exact absurd rfl hne
          | cons e elements =>
              rw [hrow] at hsense
              cases hsense
      | cons e row =>
          rw [hrow] at hsense
          rw [itemStage, hrow]
          exact congrArg (some ∘ Sense.array) hsense

/-- Once all headers have been read, what stands there means what the entries mean. -/
theorem sense_stage {u : Nat} : ∀ {es : List (Key × Item)} {own depth : Nat} {owned : Bool},
    Fits m own depth owned es → (∀ p ∈ places es, p < u) →
    ∀ name, shapeSense? (stage u owned es name) = senses (contents es) name
  | [], _, _, _, _, _, _ => rfl
  | (k, i) :: es, _, _, _, hes, hu, name => by
      obtain ⟨hi, hu⟩ := List.forall_mem_append.mp hu
      rw [stage, contents, senses]
      split
      · exact sense_itemStage hes.1.2 hi
      · exact sense_stage hes.2 hu name

theorem sense_rowStage {u : Nat} : ∀ {elements : List (TableKind × List (Key × Item))} {depth : Nat},
    ElementsFit m depth elements → (∀ p ∈ elementPlaces elements, p < u) →
    elementSenses (rowStage u elements) = itemSenses (elementContents elements)
  | [], _, _, _ => rfl
  | (kind, es) :: elements, depth, hfit, hu => by
      obtain ⟨⟨place, space, rfl, -⟩, -, ⟨-, hes⟩, hrow⟩ := hfit
      obtain ⟨hfirst, hu⟩ := List.forall_mem_append.mp hu
      obtain ⟨hplace, hinside⟩ := List.forall_mem_append.mp hfirst
      have hlive : liveIn u false (.headed place space) = true := by
        simpa [liveIn] using hplace place (List.mem_singleton.mpr rfl)
      rw [rowStage, hlive, if_pos rfl, elementSenses, elementContents, itemSenses, Content.sense,
        sense_rowStage hrow hu, funext (sense_stage hes hinside)]

end

/-- Lines that say what the lines of a sound tree say build up a tree with the same values. -/
theorem rebuild {m' : Manner} {es : Entries} (hes : Sound m 0 0 true es) (hnodup : (places es).Nodup)
    {again : List Line} (hagain : ∀ l ∈ again, l.Fits m')
    (hgists : again.map Line.gist = (lines es).map Line.gist) :
    ∃ es', ofLines? again = some es' ∧ senses (contents es') = senses (contents es) := by
  obtain ⟨u, hu, hrun⟩ := run_all hes hnodup
  have hshape := addLines_rootShape (standing_nil (m := m')) hagain
  rw [hgists, List.map_nil, hrun] at hshape
  obtain ⟨es', hes', hroot⟩ := Option.map_eq_some_iff.mp hshape
  refine ⟨es', hes', funext fun name => ?_⟩
  rw [← sense_shapes, (Shape.table.inj hroot).2, sense_stage hes.fits hu]

end Entries

end ServerLink.Toml
