import ServerLink.Proofs.Toml.Fit

namespace ServerLink.Toml

/-- A line whose path is read again and whose value or header meets what is asked of it. -/
def Line.Fits (m : Manner) : Line → Prop
  | .entry path space v =>
      (path ≠ [] ∧ path.length ≤ maxDepth ∧ GoodKeys IsGap path) ∧ m.value space v
  | .header _ path space =>
      (path ≠ [] ∧ path.length ≤ maxDepth ∧ GoodKeys Blank path) ∧ m.header space

namespace Entries

variable {m : Manner} {own depth : Nat} {owned : Bool}

/-- The kind of the table at the end of a path. Of a row of tables the last one counts. -/
def kindAt : List Key → TableKind → Entries → Option TableKind
  | [], kind, _ => some kind
  | k :: path, _, es =>
      match find? k.name es with
      | some (.table kind inside) => kindAt path kind inside
      | some (.tables elements) =>
          match elements.getLast? with
          | none => none
          | some (kind, inside) => kindAt path kind inside
      | _ => none

theorem kindAt_of_table {k : Key} {path : List Key} {old kind : TableKind} {es inside : Entries}
    (hfind : find? k.name es = some (.table kind inside)) :
    kindAt (k :: path) old es = kindAt path kind inside := by
  rw [kindAt, hfind]

theorem kindAt_of_last {k : Key} {path : List Key} {old kind : TableKind} {es inside : Entries}
    {elements : List (TableKind × Entries)} (hfind : find? k.name es = some (.tables elements))
    (hlast : elements.getLast? = some (kind, inside)) :
    kindAt (k :: path) old es = kindAt path kind inside := by
  rw [kindAt, hfind]
  simp only [hlast]

theorem find?_concat_self {k : Key} {i : Item} {es : Entries} (hnone : find? k.name es = none) :
    find? k.name (es ++ [(k, i)]) = some i := by
  simp [find?_append, hnone, find?_cons]

theorem find?_replace_self {name : String} {old i : Item} {es : Entries}
    (hfind : find? name es = some old) : find? name (replace name i es) = some i := by
  simp [find?_replace, hfind]

theorem kindAt_changeAt {f : TableKind → Entries → Option Entries} {path : List Key}
    {kind : TableKind} {es es' : Entries} (h : changeAt f path kind es = some es') :
    kindAt path kind es' = kindAt path kind es := by
  fun_induction changeAt f path kind es generalizing es' with
  | case1 => rfl
  | case2 k path old es kind inside hfind ih =>
      obtain ⟨inside', hinside, heq⟩ := Option.bind_eq_some_iff.mp h
      cases heq
      rw [kindAt_of_table hfind, kindAt_of_table (find?_replace_self hfind), ih hinside]
  | case3 => cases h
  | case4 k path old es elements hfind kind inside hlast ih =>
      obtain ⟨inside', hinside, heq⟩ := Option.bind_eq_some_iff.mp h
      cases heq
      rw [kindAt_of_last hfind hlast,
        kindAt_of_last (find?_replace_self hfind) List.getLast?_concat, ih hinside]
  | case5 => cases h

theorem kindAt_openAt {f : Key → Entries → Option Entries} {kind : TableKind}
    (hf : ∀ {k : Key} {es es' : Entries} (old : TableKind), f k es = some es' → (names es).Nodup →
      kindAt [k] old es' = some kind)
    {path : List Key} {old : TableKind} {es es' : Entries} (h : openAt f path es = some es')
    (hes : Sound m own depth owned es) : kindAt path old es' = some kind := by
  fun_induction openAt f path es generalizing own depth owned old es' with
  | case1 => cases h
  | case2 k es => exact hf old h hes.nodup
  | case3 k l path es hnone ih =>
      obtain ⟨inside, hinside, heq⟩ := Option.bind_eq_some_iff.mp h
      cases heq
      have hnew : Sound m own depth owned [] := sound_nil
      rw [kindAt_of_table (find?_concat_self hnone), ih hinside hnew]
  | case4 => cases h
  | case5 k l path es outer inside hfind ih =>
      obtain ⟨inside', hinside, heq⟩ := Option.bind_eq_some_iff.mp h
      cases heq
      obtain ⟨own', owned', -, hsound⟩ := hes.of_table hfind
      rw [kindAt_of_table (find?_replace_self hfind), ih hinside hsound]
  | case6 => cases h
  | case7 k l path es elements hfind outer inside hlast ih =>
      obtain ⟨inside', hinside, heq⟩ := Option.bind_eq_some_iff.mp h
      cases heq
      rw [kindAt_of_last (find?_replace_self hfind) List.getLast?_concat,
        ih hinside (hes.of_last hfind hlast)]

theorem kindAt_openTable {kind old : TableKind} {path : List Key} {es es' : Entries}
    (h : openTable kind path es = some es') (hes : Sound m own depth owned es) :
    kindAt path old es' = some kind := by
  refine kindAt_openAt (fun {k es es'} old h hnodup => ?_) h hes
  split at h
  · rename_i hnone
    cases h
    exact kindAt_of_table (find?_concat_self hnone)
  · cases h
    exact kindAt_of_table (find?_concat_self (find?_eq_none_iff.mpr (not_mem_names_remove hnodup)))
  · cases h

theorem kindAt_openElement {kind old : TableKind} {path : List Key} {es es' : Entries}
    (h : openElement kind path es = some es') (hes : Sound m own depth owned es) :
    kindAt path old es' = some kind := by
  refine kindAt_openAt (fun {k es es'} old h _ => ?_) h hes
  split at h
  · rename_i hnone
    cases h
    exact kindAt_of_last (find?_concat_self hnone) rfl
  · rename_i elements hfind
    cases h
    exact kindAt_of_last (find?_replace_self hfind) List.getLast?_concat
  · cases h

/-- A change to the entries of a table with a header keeps the tree sound, and concerns no line of a table
around it. -/
theorem changeAt_sound {f : TableKind → Entries → Option Entries} {place : Nat} {space : Space}
    (hf : ∀ {es es' : Entries} {depth : Nat}, f (.headed place space) es = some es' →
      Sound m 0 depth true es → Sound m 0 depth true es' ∧ (places es').Perm (places es))
    {path : List Key} {kind : TableKind} {es es' : Entries} (h : changeAt f path kind es = some es')
    (hkind : kindAt path kind es = some (.headed place space)) (hes : Sound m own depth owned es)
    (howned : ∀ place space, kind = .headed place space → own = 0 ∧ owned = true) :
    Sound m own depth owned es' ∧ (places es').Perm (places es) ∧
      (kind = .dotted → ∀ path, ownLines path es' = ownLines path es) := by
  fun_induction changeAt f path kind es generalizing own depth owned es' with
  | case1 kind es =>
      cases hkind
      obtain ⟨rfl, rfl⟩ := howned place space rfl
      obtain ⟨hsound, hplaces⟩ := hf h hes
      exact ⟨hsound, hplaces, nofun⟩
  | case2 k path old es kind inside hfind ih =>
      obtain ⟨inside', hinside, heq⟩ := Option.bind_eq_some_iff.mp h
      cases heq
      rw [kindAt_of_table hfind] at hkind
      obtain ⟨own', owned', howned', hsound⟩ := hes.of_table hfind
      obtain ⟨-, hplaces, hlines⟩ := ih hinside hkind hsound howned'
      have hall : Alters m own depth owned [] es _ := hes.alter_table hfind
        (fun _ _ howned' hsound => (ih hinside hkind hsound howned').1) hplaces hlines
      exact ⟨hall.sound, hall.places, fun _ => hall.lines⟩
  | case3 => cases h
  | case4 k path old es elements hfind kind inside hlast ih =>
      obtain ⟨inside', hinside, heq⟩ := Option.bind_eq_some_iff.mp h
      cases heq
      rw [kindAt_of_last hfind hlast] at hkind
      obtain ⟨hsound, hplaces, -⟩ :=
        ih hinside hkind (hes.of_last hfind hlast) fun _ _ _ => ⟨rfl, rfl⟩
      have hall : Alters m own depth owned [] es _ :=
        hes.alter_last hfind hlast (fun _ => hsound) hplaces nofun
      exact ⟨hall.sound, hall.places, fun _ => hall.lines⟩
  | case5 => cases h

/-- A tree in which `n` headers have found different places, the last of them at the end of a path. -/
structure Standing (m : Manner) (n : Nat) (current : List Key) (es : Entries) : Prop where
  sound : Sound m 0 0 true es
  distinct : (places es).Nodup
  bound : ∀ p ∈ places es, p ≤ n
  headers : places es ≠ [] → ∃ space, m.header space
  current : ∃ place space, kindAt current root es = some (.headed place space)

theorem standing_nil : Standing m 0 [] [] :=
  ⟨sound_nil, List.nodup_nil, nofun, fun hne => absurd rfl hne, 0, {}, rfl⟩

variable {n : Nat} {current : List Key} {es es' : Entries}

theorem Standing.entry {path : List Key} {space : Space} {v : Value} (hes : Standing m n current es)
    (h : changeAt (fun kind es => addValue true kind (.value space v) path es) current root es =
      some es') (hline : (Line.entry path space v).Fits m) : Standing m n current es' := by
  obtain ⟨⟨-, hlength, hkeys⟩, hvalue⟩ := hline
  obtain ⟨place, header, hkind⟩ := hes.current
  obtain ⟨hsound, hplaces, -⟩ := changeAt_sound
    (fun hadd hes =>
      let ⟨hsound, hplaces, _⟩ := addValue_sound hadd hes hkeys (by omega) hvalue
      ⟨hsound, hplaces⟩)
    h hkind hes.sound fun _ _ _ => ⟨rfl, rfl⟩
  exact ⟨hsound, hplaces.nodup_iff.mpr hes.distinct,
    fun p hp => hes.bound p (hplaces.mem_iff.mp hp),
    fun hne => hes.headers fun hnil => hne (hnil ▸ hplaces).eq_nil,
    place, header, (kindAt_changeAt h).trans hkind⟩

theorem Standing.opened {path : List Key} {space : Space} (hes : Standing m n current es)
    (h : Alters m 0 0 true [n + 1] es es') (hspace : m.header space)
    (hkind : kindAt path root es' = some (.headed (n + 1) space)) : Standing m (n + 1) path es' := by
  refine ⟨h.sound, ?_, fun p hp => ?_, fun _ => ⟨space, hspace⟩, n + 1, space, hkind⟩
  · refine h.places.nodup_iff.mpr (List.nodup_cons.mpr ⟨fun hmem => ?_, hes.distinct⟩)
    exact Nat.not_succ_le_self n (hes.bound _ hmem)
  · rcases List.mem_cons.mp (h.places.mem_iff.mp hp) with rfl | hp
    · exact Nat.le_refl _
    · exact Nat.le_succ_of_le (hes.bound p hp)

theorem Standing.table {path : List Key} {space : Space} (hes : Standing m n current es)
    (h : openTable (.headed (n + 1) space) path es = some es')
    (hline : (Line.header false path space).Fits m) : Standing m (n + 1) path es' := by
  obtain ⟨⟨-, hlength, hkeys⟩, hspace⟩ := hline
  exact hes.opened (openTable_sound h hes.sound hes.bound hkeys (by omega) hspace) hspace
    (kindAt_openTable h hes.sound)

theorem Standing.element {path : List Key} {space : Space} (hes : Standing m n current es)
    (h : openElement (.headed (n + 1) space) path es = some es')
    (hline : (Line.header true path space).Fits m) : Standing m (n + 1) path es' := by
  obtain ⟨⟨-, hlength, hkeys⟩, hspace⟩ := hline
  exact hes.opened (openElement_sound h hes.sound hes.bound hkeys (by omega) hspace) hspace
    (kindAt_openElement h hes.sound)

theorem Standing.lines {lines : List Line} (hes : Standing m n current es)
    (h : addLines n current lines es = some es') (hlines : ∀ l ∈ lines, l.Fits m) :
    ∃ n' current', Standing m n' current' es' := by
  fun_induction addLines n current lines es with
  | case1 n current es =>
      cases h
      exact ⟨n, current, hes⟩
  | case2 n current path space v lines es ih =>
      obtain ⟨es₁, hadd, h⟩ := Option.bind_eq_some_iff.mp h
      obtain ⟨hline, hlines⟩ := List.forall_mem_cons.mp hlines
      exact ih es₁ (hes.entry hadd hline) h hlines
  | case3 n current path space lines es ih =>
      obtain ⟨es₁, hopen, h⟩ := Option.bind_eq_some_iff.mp h
      obtain ⟨hline, hlines⟩ := List.forall_mem_cons.mp hlines
      exact ih es₁ (hes.table hopen hline) h hlines
  | case4 n current path space lines es ih =>
      obtain ⟨es₁, hopen, h⟩ := Option.bind_eq_some_iff.mp h
      obtain ⟨hline, hlines⟩ := List.forall_mem_cons.mp hlines
      exact ih es₁ (hes.element hopen hline) h hlines

/-- Lines that fit build up a sound tree, in which the headers have different places. -/
theorem ofLines?_standing {lines : List Line} (h : ofLines? lines = some es)
    (hlines : ∀ l ∈ lines, l.Fits m) : ∃ n current, Standing m n current es :=
  standing_nil.lines h hlines

theorem goodKeys_concat {last : List Char → Prop} {path : List Key} {k : Key} :
    GoodKeys last (path ++ [k]) ↔
      (∀ l ∈ path, l.Good ∧ Blank l.outer.before) ∧ k.Good ∧ last k.outer.before := by
  induction path with
  | nil => simp [GoodKeys]
  | cons l path ih =>
      have hcons : GoodKeys last (l :: path ++ [k]) ↔
          (l.Good ∧ Blank l.outer.before) ∧ GoodKeys last (path ++ [k]) := by
        cases path <;> exact Iff.rfl
      rw [hcons, ih, List.forall_mem_cons, and_assoc, and_assoc, and_assoc]

theorem forall_mem_concat {path : List Key} {k : Key}
    (hpath : ∀ l ∈ path, l.Good ∧ Blank l.outer.before) (hk : k.Good) (hblank : Blank k.outer.before) :
    ∀ l ∈ path ++ [k], l.Good ∧ Blank l.outer.before := by
  intro l hl
  rcases List.mem_append.mp hl with hl | hl
  · exact hpath l hl
  · cases List.mem_singleton.mp hl
    exact ⟨hk, hblank⟩

mutual

theorem itemLines_fit {k : Key} (hk : k.Good) : ∀ {i : Item} {own depth : Nat} {owned : Bool}
    {path : List Key}, ItemFits m k own depth owned i → path.length + 1 = own →
    (∀ l ∈ path, l.Good ∧ Blank l.outer.before) → ∀ l ∈ itemLines (path ++ [k]) i, l.Fits m
  | .value space v, own, _, _, path, hi, hlength, hpath, l, hl => by
      obtain ⟨-, hgap, hown, hvalue⟩ := hi
      cases List.mem_singleton.mp hl
      refine ⟨⟨by simp, ?_, goodKeys_concat.mpr ⟨hpath, hk, hgap⟩⟩, hvalue⟩
      rw [List.length_append, List.length_singleton]
      omega
  | .table (.headed ..) _, _, _, _, _, _, _, _, _, hl => by cases hl
  | .table .implied _, _, _, _, _, _, _, _, _, hl => by cases hl
  | .table .dotted es, own, _, _, path, hi, hlength, hpath, l, hl => by
      obtain ⟨-, hblank, -, -, hes⟩ := hi
      exact ownLines_fit hes (by simpa using hlength) (forall_mem_concat hpath hk hblank) l hl
  | .tables _, _, _, _, _, _, _, _, _, hl => by cases hl

theorem ownLines_fit : ∀ {es : List (Key × Item)} {own depth : Nat} {owned : Bool}
    {path : List Key}, Fits m own depth owned es → path.length = own →
    (∀ l ∈ path, l.Good ∧ Blank l.outer.before) → ∀ l ∈ ownLines path es, l.Fits m
  | [], _, _, _, _, _, _, _, _, hl => by cases hl
  | (_, _) :: _, _, _, _, _, hes, hlength, hpath, l, hl => by
      rcases List.mem_append.mp hl with hl | hl
      · exact itemLines_fit hes.1.1 hes.1.2 (congrArg (· + 1) hlength) hpath l hl
      · exact ownLines_fit hes.2 hlength hpath l hl

end

theorem ownSection_fit {isArray : Bool} {path : List Key} {place : Nat} {space : Space} {es : Entries}
    {depth : Nat} (hne : path ≠ []) (hlength : path.length ≤ maxDepth) (hpath : GoodKeys Blank path)
    (hspace : m.header space) (hes : Fits m 0 depth true es) :
    ∀ s ∈ ownSection isArray path (.headed place space) es, ∀ l ∈ s.lines, l.Fits m := by
  intro s hs
  cases List.mem_singleton.mp hs
  exact List.forall_mem_cons.mpr ⟨⟨⟨hne, hlength, hpath⟩, hspace⟩, ownLines_fit hes rfl nofun⟩

mutual

theorem itemSections_fit {k : Key} (hk : k.Good) : ∀ {i : Item} {own depth : Nat} {owned : Bool}
    {path : List Key}, ItemFits m k own depth owned i → path.length + 1 = depth →
    (∀ l ∈ path, l.Good ∧ Blank l.outer.before) →
    ∀ s ∈ itemSections (path ++ [k]) i, ∀ l ∈ s.lines, l.Fits m
  | .value .., _, _, _, _, _, _, _, _, hs => by cases hs
  | .table (.headed place space) es, _, depth, _, path, hi, hlength, hpath, s, hs => by
      obtain ⟨hblank, hdepth, hspace, -, hes⟩ := hi
      have hsame : (path ++ [k]).length = depth := by simpa using hlength
      have hall := goodKeys_concat.mpr ⟨hpath, hk, hblank⟩
      rcases List.mem_append.mp hs with hs | hs
      · exact ownSection_fit (by simp) (hsame ▸ hdepth) hall hspace hes s hs
      · exact sections_fit hes hsame (forall_mem_concat hpath hk hblank) s hs
  | .table .implied es, _, _, _, path, hi, hlength, hpath, s, hs => by
      obtain ⟨hblank, -, -, hes⟩ := hi
      exact sections_fit hes (by simpa using hlength) (forall_mem_concat hpath hk hblank) s hs
  | .table .dotted es, _, _, _, path, hi, hlength, hpath, s, hs => by
      obtain ⟨-, hblank, -, -, hes⟩ := hi
      exact sections_fit hes (by simpa using hlength) (forall_mem_concat hpath hk hblank) s hs
  | .tables elements, _, depth, _, path, hi, hlength, hpath, s, hs => by
      obtain ⟨hblank, hdepth, -, helements⟩ := hi
      exact elementSections_fit hk hblank hdepth helements hlength hpath s hs

theorem sections_fit : ∀ {es : List (Key × Item)} {own depth : Nat} {owned : Bool}
    {path : List Key}, Fits m own depth owned es → path.length = depth →
    (∀ l ∈ path, l.Good ∧ Blank l.outer.before) → ∀ s ∈ sections path es, ∀ l ∈ s.lines, l.Fits m
  | [], _, _, _, _, _, _, _, _, hs => by cases hs
  | (_, _) :: _, _, _, _, _, hes, hlength, hpath, s, hs => by
      rcases List.mem_append.mp hs with hs | hs
      · exact itemSections_fit hes.1.1 hes.1.2 (congrArg (· + 1) hlength) hpath s hs
      · exact sections_fit hes.2 hlength hpath s hs

theorem elementSections_fit {k : Key} (hk : k.Good) (hblank : Blank k.outer.before) {depth : Nat}
    (hdepth : depth ≤ maxDepth) : ∀ {elements : List (TableKind × List (Key × Item))}
    {path : List Key}, ElementsFit m depth elements → path.length + 1 = depth →
    (∀ l ∈ path, l.Good ∧ Blank l.outer.before) →
    ∀ s ∈ elementSections (path ++ [k]) elements, ∀ l ∈ s.lines, l.Fits m
  | [], _, _, _, _, _, hs => by cases hs
  | (_, es) :: elements, path, helements, hlength, hpath, s, hs => by
      obtain ⟨⟨place, space, rfl, hspace, -⟩, -, ⟨-, hes⟩, hrest⟩ := helements
      have hsame : (path ++ [k]).length = depth := by simpa using hlength
      have hall := goodKeys_concat.mpr ⟨hpath, hk, hblank⟩
      rcases List.mem_append.mp hs with hs | hs
      · rcases List.mem_append.mp hs with hs | hs
        · exact ownSection_fit (by simp) (hsame ▸ hdepth) hall hspace hes s hs
        · exact sections_fit hes hsame (forall_mem_concat hpath hk hblank) s hs
      · exact elementSections_fit hk hblank hdepth hrest hlength hpath s hs

end

theorem lines_fit (hes : Sound m 0 0 true es) : ∀ l ∈ lines es, l.Fits m := by
  intro l hl
  rcases List.mem_append.mp hl with hl | hl
  · exact ownLines_fit hes.fits rfl (List.forall_mem_nil _) l hl
  · obtain ⟨s, hs, hl⟩ := List.mem_flatMap.mp hl
    exact sections_fit hes.fits rfl (List.forall_mem_nil _) s (List.mem_mergeSort.mp hs) l hl

end Entries

end ServerLink.Toml
