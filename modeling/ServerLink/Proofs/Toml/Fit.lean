import ServerLink.Proofs.Toml.Key
import ServerLink.Proofs.Toml.Tree

/-!
The trees that the lines of a TOML document build up. In such a tree the names in a table differ, values and
the tables that paths open stand in tables with a header of their own, the places of a row of tables ascend,
and each key is written so that it can be read again where it stands.
-/

namespace ServerLink.Toml

/-- What is asked of a value with the space around it and of the space around a header. -/
structure Manner where
  value : Space → Value → Prop
  header : Space → Prop

namespace Entries

mutual

/-- An item fits in under a key: `own` keys behind the last header, and `depth` keys behind the outermost
table. Values stand only in tables that are `owned` by a header or a path. -/
def ItemFits (m : Manner) (k : Key) (own depth : Nat) (owned : Bool) : Item → Prop
  | .value space v => owned = true ∧ IsGap k.outer.before ∧ own ≤ maxDepth ∧ m.value space v
  | .table (.headed _ space) es =>
      Blank k.outer.before ∧ depth ≤ maxDepth ∧ m.header space ∧ (names es).Nodup ∧
        Fits m 0 depth true es
  | .table .implied es =>
      Blank k.outer.before ∧ places es ≠ [] ∧ (names es).Nodup ∧ Fits m own depth false es
  | .table .dotted es =>
      owned = true ∧ Blank k.outer.before ∧ (ownLines [] es ≠ [] ∨ places es ≠ []) ∧
        (names es).Nodup ∧ Fits m own depth true es
  | .tables elements =>
      Blank k.outer.before ∧ depth ≤ maxDepth ∧ elements ≠ [] ∧ ElementsFit m depth elements

/-- The entries of a table fit. -/
def Fits (m : Manner) (own depth : Nat) (owned : Bool) : List (Key × Item) → Prop
  | [] => True
  | (k, i) :: es =>
      (k.Good ∧ ItemFits m k (own + 1) (depth + 1) owned i) ∧ Fits m own depth owned es

/-- The tables of a row fit: what stands in one of them has been opened behind its header and ahead of the
next one. -/
def ElementsFit (m : Manner) (depth : Nat) : List (TableKind × List (Key × Item)) → Prop
  | [] => True
  | (kind, es) :: elements =>
      (∃ place space, kind = .headed place space ∧ m.header space ∧ ∀ p ∈ places es, place < p) ∧
        (∀ p ∈ kindPlaces kind ++ places es, ∀ q ∈ elementPlaces elements, p < q) ∧
        ((names es).Nodup ∧ Fits m 0 depth true es) ∧ ElementsFit m depth elements

end

/-- A table whose entries fit and have different names. -/
structure Sound (m : Manner) (own depth : Nat) (owned : Bool) (es : Entries) : Prop where
  nodup : (names es).Nodup
  fits : Fits m own depth owned es

variable {m : Manner} {own depth : Nat} {owned : Bool}

theorem fits_iff {es : Entries} : Fits m own depth owned es ↔
    ∀ k i, (k, i) ∈ es → k.Good ∧ ItemFits m k (own + 1) (depth + 1) owned i := by
  induction es with
  | nil => simp [Fits]
  | cons e es ih =>
      obtain ⟨k, i⟩ := e
      simp only [Fits, ih, List.mem_cons]
      grind

theorem sound_nil : Sound m own depth owned [] :=
  ⟨List.nodup_nil, trivial⟩

mutual

theorem ItemFits.free {k : Key} {depth : Nat} : ∀ {i : Item} {own : Nat},
    ItemFits m k own depth false i → ∀ own' owned', ItemFits m k own' depth owned' i
  | .value .., _, h => by simp [ItemFits] at h
  | .table (.headed ..) _, _, h => fun _ _ => h
  | .table .implied _, _, h => fun own' _ => ⟨h.1, h.2.1, h.2.2.1, Fits.free h.2.2.2 own' false⟩
  | .table .dotted _, _, h => by simp [ItemFits] at h
  | .tables _, _, h => fun _ _ => h

/-- Entries that fit without an owner fit wherever the table stands. -/
theorem Fits.free {depth : Nat} : ∀ {es : List (Key × Item)} {own : Nat},
    Fits m own depth false es → ∀ own' owned', Fits m own' depth owned' es
  | [], _, _ => fun _ _ => trivial
  | (_, _) :: _, _, h => fun own' owned' =>
      ⟨⟨h.1.1, ItemFits.free h.1.2 (own' + 1) owned'⟩, Fits.free h.2 own' owned'⟩

end

theorem Sound.mem {es : Entries} (h : Sound m own depth owned es) {k : Key} {i : Item}
    (hmem : (k, i) ∈ es) : k.Good ∧ ItemFits m k (own + 1) (depth + 1) owned i :=
  fits_iff.mp h.fits k i hmem

theorem Sound.find {es : Entries} (h : Sound m own depth owned es) {name : String} {i : Item}
    (hfind : find? name es = some i) :
    ∃ k, (k, i) ∈ es ∧ k.name = name ∧ k.Good ∧ ItemFits m k (own + 1) (depth + 1) owned i := by
  obtain ⟨k, hmem, hname⟩ := mem_of_find? hfind
  exact ⟨k, hmem, hname, h.mem hmem⟩

theorem Sound.concat {es : Entries} (h : Sound m own depth owned es) {k : Key} {i : Item}
    (hnone : find? k.name es = none) (hk : k.Good)
    (hi : ItemFits m k (own + 1) (depth + 1) owned i) : Sound m own depth owned (es ++ [(k, i)]) := by
  constructor
  · rw [names_append]
    refine List.nodup_append.mpr ⟨h.nodup, by simp [names], ?_⟩
    rintro a ha b hb rfl
    obtain rfl : a = k.name := by simpa [names] using hb
    exact find?_eq_none_iff.mp hnone ha
  · refine fits_iff.mpr fun l j hmem => ?_
    rcases List.mem_append.mp hmem with hmem | hmem
    · exact h.mem hmem
    · cases List.mem_singleton.mp hmem
      exact ⟨hk, hi⟩

theorem Sound.replace {es : Entries} (h : Sound m own depth owned es) {name : String} {old new : Item}
    (hfind : find? name es = some old)
    (hnew : ∀ k : Key, ItemFits m k (own + 1) (depth + 1) owned old →
      ItemFits m k (own + 1) (depth + 1) owned new) :
    Sound m own depth owned (replace name new es) := by
  constructor
  · rw [names_replace]
    exact h.nodup
  · refine fits_iff.mpr fun l j hmem => ?_
    rcases mem_replace hmem with hkept | ⟨old', hwas, hfind', hj⟩
    · exact h.mem hkept
    · cases hj
      cases hfind'.symm.trans hfind
      obtain ⟨hl, hold⟩ := h.mem hwas
      exact ⟨hl, hnew l hold⟩

theorem Sound.remove {es : Entries} (h : Sound m own depth owned es) (name : String) :
    Sound m own depth owned (remove name es) :=
  ⟨h.nodup.sublist (names_remove_sublist name es),
    fits_iff.mpr fun _ _ hmem => h.mem (remove_subset name es hmem)⟩

theorem elementsFit_concat {elements : List (TableKind × Entries)} {kind : TableKind} {es : Entries} :
    ElementsFit m depth (elements ++ [(kind, es)]) ↔
      ElementsFit m depth elements ∧
        (∃ place space, kind = .headed place space ∧ m.header space ∧ ∀ p ∈ places es, place < p) ∧
        (∀ p ∈ elementPlaces elements, ∀ q ∈ kindPlaces kind ++ places es, p < q) ∧
        Sound m 0 depth true es := by
  induction elements with
  | nil =>
      simp only [List.nil_append, ElementsFit, elementPlaces, List.not_mem_nil, false_implies,
        implies_true, true_and, and_true]
      exact ⟨fun h => ⟨h.1, h.2.1, h.2.2⟩, fun h => ⟨h.1, h.2.nodup, h.2.fits⟩⟩
  | cons e elements ih =>
      obtain ⟨kind', es'⟩ := e
      simp only [List.cons_append, ElementsFit, ih, elementPlaces_append, elementPlaces,
        List.append_nil, List.mem_append]
      grind

theorem Sound.of_table {es inside : Entries} {name : String} {kind : TableKind}
    (hes : Sound m own depth owned es) (hfind : find? name es = some (.table kind inside)) :
    ∃ own' owned', (∀ place space, kind = .headed place space → own' = 0 ∧ owned' = true) ∧
      Sound m own' (depth + 1) owned' inside := by
  obtain ⟨k, -, -, -, hfit⟩ := hes.find hfind
  cases kind with
  | headed place space => exact ⟨0, true, by simp, hfit.2.2.2.1, hfit.2.2.2.2⟩
  | implied => exact ⟨own + 1, false, nofun, hfit.2.2.1, hfit.2.2.2⟩
  | dotted => exact ⟨own + 1, true, nofun, hfit.2.2.2.1, hfit.2.2.2.2⟩

theorem places_inside {es inside : Entries} {name : String} {kind : TableKind}
    (hfind : find? name es = some (.table kind inside)) : Entries.places inside ⊆ Entries.places es := by
  obtain ⟨k, hmem, -⟩ := mem_of_find? hfind
  exact fun p hp => itemPlaces_subset hmem (List.mem_append_right _ hp)

theorem places_last {es inside : Entries} {name : String} {kind : TableKind}
    {elements : List (TableKind × Entries)} (hfind : find? name es = some (.tables elements))
    (hlast : elements.getLast? = some (kind, inside)) : Entries.places inside ⊆ Entries.places es := by
  obtain ⟨k, hmem, -⟩ := mem_of_find? hfind
  obtain ⟨elements, rfl⟩ := List.getLast?_eq_some_iff.mp hlast
  intro p hp
  refine itemPlaces_subset hmem ?_
  simp [itemPlaces, elementPlaces, hp]

theorem elementPlaces_ne_nil {elements : List (TableKind × Entries)} (hne : elements ≠ [])
    (h : ElementsFit m depth elements) : elementPlaces elements ≠ [] := by
  obtain ⟨⟨kind, es⟩, elements, rfl⟩ := List.exists_cons_of_ne_nil hne
  obtain ⟨⟨place, space, rfl, -⟩, -⟩ := h
  simp [elementPlaces, kindPlaces]

/-- The places in the last table of a row when headers have been added behind all others. -/
theorem elementPlaces_last {elements : List (TableKind × Entries)} {kind : TableKind}
    {es es' : Entries} {new : List Nat} (hlast : elements.getLast? = some (kind, es))
    (hplaces : (places es').Perm (new ++ places es)) :
    (elementPlaces (elements.dropLast ++ [(kind, es')])).Perm (new ++ elementPlaces elements) := by
  obtain ⟨elements, rfl⟩ := List.getLast?_eq_some_iff.mp hlast
  rw [List.dropLast_concat, elementPlaces_append, elementPlaces_append]
  simp only [elementPlaces, List.append_nil]
  grind

/-- A row of tables fits when headers behind all others are added to its last table. -/
theorem elementsFit_last {elements : List (TableKind × Entries)} {kind : TableKind}
    {es es' : Entries} {new : List Nat} (hlast : elements.getLast? = some (kind, es))
    (h : ElementsFit m depth elements) (hplaces : (places es').Perm (new ++ places es))
    (hnew : ∀ p ∈ elementPlaces elements, ∀ q ∈ new, p < q)
    (hes' : Sound m 0 depth true es → Sound m 0 depth true es') :
    ElementsFit m depth (elements.dropLast ++ [(kind, es')]) := by
  obtain ⟨elements, rfl⟩ := List.getLast?_eq_some_iff.mp hlast
  obtain ⟨hbefore, ⟨place, space, rfl, hspace, hbehind⟩, hascend, hsound⟩ := elementsFit_concat.mp h
  rw [List.dropLast_concat]
  simp only [elementPlaces_append, elementPlaces, List.append_nil, kindPlaces] at hnew hascend
  refine elementsFit_concat.mpr ⟨hbefore, ⟨place, space, rfl, hspace, ?_⟩, ?_, hes' hsound⟩
  · intro p hp
    rcases List.mem_append.mp (hplaces.mem_iff.mp hp) with hp | hp
    · exact hnew place (by simp) p hp
    · exact hbehind p hp
  · intro p hp q hq
    rcases List.mem_append.mp hq with hq | hq
    · exact hascend p hp q (List.mem_append_left _ hq)
    · rcases List.mem_append.mp (hplaces.mem_iff.mp hq) with hq | hq
      · exact hnew p (by simp [hp]) q hq
      · exact hascend p hp q (List.mem_append_right _ hq)

theorem places_replace_perm {name : String} {old item : Item} {es : Entries} {new : List Nat}
    (hfind : find? name es = some old) (hplaces : (itemPlaces item).Perm (new ++ itemPlaces old)) :
    (places (replace name item es)).Perm (new ++ places es) := by
  obtain ⟨before, after, hbefore, hafter⟩ := places_replace hfind item
  rw [hafter, hbefore]
  grind

/-- Headers in new places, behind all others, have been added to a table, and no line of its own. -/
structure Alters (m : Manner) (own depth : Nat) (owned : Bool) (new : List Nat) (es es' : Entries) :
    Prop where
  sound : Sound m own depth owned es'
  places : (places es').Perm (new ++ Entries.places es)
  lines : ∀ path, ownLines path es' = ownLines path es

theorem Sound.alter_table {es inside inside' : Entries} {name : String} {kind : TableKind}
    {new : List Nat} (hes : Sound m own depth owned es)
    (hfind : find? name es = some (.table kind inside))
    (hinner : ∀ own' owned', (∀ place space, kind = .headed place space → own' = 0 ∧ owned' = true) →
      Sound m own' (depth + 1) owned' inside → Sound m own' (depth + 1) owned' inside')
    (hplaces : (Entries.places inside').Perm (new ++ Entries.places inside))
    (hlines : kind = .dotted → ∀ path, ownLines path inside' = ownLines path inside) :
    Alters m own depth owned new es (Entries.replace name (.table kind inside') es) := by
  have hmore (hne : Entries.places inside ≠ []) : Entries.places inside' ≠ [] := by
    intro hnil
    rw [hnil] at hplaces
    exact hne (List.append_eq_nil_iff.mp hplaces.nil_eq.symm).2
  refine ⟨hes.replace hfind fun k hold => ?_, places_replace_perm hfind ?_, ownLines_replace hfind ?_⟩
  · cases kind with
    | headed place space =>
        obtain ⟨hblank, hdepth, hspace, hnodup, hfits⟩ := hold
        have hinner := hinner 0 true (by simp) ⟨hnodup, hfits⟩
        exact ⟨hblank, hdepth, hspace, hinner.nodup, hinner.fits⟩
    | implied =>
        obtain ⟨hblank, hne, hnodup, hfits⟩ := hold
        have hinner := hinner (own + 1) false nofun ⟨hnodup, hfits⟩
        exact ⟨hblank, hmore hne, hinner.nodup, hinner.fits⟩
    | dotted =>
        obtain ⟨rfl, hblank, hne, hnodup, hfits⟩ := hold
        have hinner := hinner (own + 1) true nofun ⟨hnodup, hfits⟩
        exact ⟨rfl, hblank, hne.imp (fun h => hlines rfl [] ▸ h) hmore, hinner.nodup, hinner.fits⟩
  · simp only [itemPlaces]
    grind
  · cases kind with
    | dotted => exact hlines rfl
    | _ => exact fun _ => rfl

theorem Sound.alter_last {es inside inside' : Entries} {name : String} {kind : TableKind}
    {elements : List (TableKind × Entries)} {new : List Nat} (hes : Sound m own depth owned es)
    (hfind : find? name es = some (.tables elements))
    (hlast : elements.getLast? = some (kind, inside))
    (hinner : Sound m 0 (depth + 1) true inside → Sound m 0 (depth + 1) true inside')
    (hplaces : (Entries.places inside').Perm (new ++ Entries.places inside))
    (hnew : ∀ p ∈ Entries.places es, ∀ q ∈ new, p < q) :
    Alters m own depth owned new es
      (Entries.replace name (.tables (elements.dropLast ++ [(kind, inside')])) es) := by
  obtain ⟨k, hmem, -⟩ := mem_of_find? hfind
  have hnew' : ∀ p ∈ elementPlaces elements, ∀ q ∈ new, p < q :=
    fun p hp => hnew p (itemPlaces_subset hmem hp)
  refine ⟨hes.replace hfind fun k hold => ?_, places_replace_perm hfind ?_,
    ownLines_replace hfind fun _ => rfl⟩
  · obtain ⟨hblank, hdepth, -, hfit⟩ := hold
    exact ⟨hblank, hdepth, by simp, elementsFit_last hlast hfit hplaces hnew' hinner⟩
  · exact elementPlaces_last hlast hplaces

theorem Sound.of_last {es inside : Entries} {name : String} {kind : TableKind}
    {elements : List (TableKind × Entries)} (hes : Sound m own depth owned es)
    (hfind : find? name es = some (.tables elements))
    (hlast : elements.getLast? = some (kind, inside)) : Sound m 0 (depth + 1) true inside := by
  obtain ⟨k, -, -, -, hfit⟩ := hes.find hfind
  obtain ⟨elements, rfl⟩ := List.getLast?_eq_some_iff.mp hlast
  exact (elementsFit_concat.mp hfit.2.2.2).2.2.2

theorem addValue_sound {start : Bool} {kind : TableKind} {space : Space} {v : Value}
    {path : List Key} {es es' : Entries}
    (h : addValue start kind (.value space v) path es = some es')
    (hes : Sound m own depth true es) (hkeys : GoodKeys IsGap path)
    (hlength : own + path.length ≤ maxDepth) (hvalue : m.value space v) :
    Sound m own depth true es' ∧ (places es').Perm (places es) ∧
      (ownLines [] es' ≠ [] ∨ places es' ≠ []) := by
  -- The induction follows the path; `own` counts its keys since the last header.
  fun_induction addValue start kind (.value space v) path es generalizing own depth es' with
  | case1 => cases h
  | case2 => cases h
  | case3 start kind k es hfree =>
      cases h
      have hnone : find? k.name es = none := by
        simpa using (not_or.mp hfree).2
      refine ⟨hes.concat hnone hkeys.1 ⟨rfl, hkeys.2, hlength, hvalue⟩,
        by simp [places, itemPlaces], .inl ?_⟩
      rw [ownLines_append]
      simp [ownLines, itemLines]
  | case4 start kind k l path es hnone ih =>
      obtain ⟨inside, hinside, heq⟩ := Option.bind_eq_some_iff.mp h
      cases heq
      obtain ⟨⟨hk, hblank⟩, hkeys⟩ := hkeys
      have hshort : own + 1 + (l :: path).length ≤ maxDepth := by
        simp only [List.length_cons] at hlength ⊢
        omega
      have hnew : Sound m (own + 1) (depth + 1) true [] := sound_nil
      obtain ⟨hsound, hplaces, hlines⟩ := ih hinside hnew hkeys hshort
      have hnil : places inside = [] := hplaces.eq_nil
      have hitem : ItemFits m k (own + 1) (depth + 1) true (.table .dotted inside) :=
        ⟨rfl, hblank, hlines, hsound.nodup, hsound.fits⟩
      refine ⟨hes.concat hnone hk hitem, by simp [places, itemPlaces, kindPlaces, hnil], ?_⟩
      have hmem : (k, .table .dotted inside) ∈ es ++ [(k, .table .dotted inside)] := by simp
      have hown := hlines.resolve_right fun hne => hne hnil
      exact .inl (ownLines_ne_nil hmem fun hnil => hown (ownLines_eq_nil_iff.mp hnil))
  | case5 => cases h
  | case6 => cases h
  | case7 start kind k l path es old inside hfind hkind ih =>
      obtain ⟨inside', hinside, heq⟩ := Option.bind_eq_some_iff.mp h
      cases heq
      have hshort : own + 1 + (l :: path).length ≤ maxDepth := by
        simp only [List.length_cons] at hlength ⊢
        omega
      -- a table that an inner header has opened counts from now on as opened by the path
      have hold {k : Key} (hfit : ItemFits m k (own + 1) (depth + 1) true (.table old inside)) :
          Blank k.outer.before ∧ Sound m (own + 1) (depth + 1) true inside := by
        cases old with
        | headed place space => exact absurd rfl (hkind place space)
        | implied => exact ⟨hfit.1, hfit.2.2.1, hfit.2.2.2.free _ _⟩
        | dotted => exact ⟨hfit.2.1, hfit.2.2.2.1, hfit.2.2.2.2⟩
      obtain ⟨k', -, -, -, hfit⟩ := hes.find hfind
      obtain ⟨hsound, hplaces, hlines⟩ := ih hinside (hold hfit).2 hkeys.2 hshort
      have hsame : (itemPlaces (.table .dotted inside')).Perm ([] ++ itemPlaces (.table old inside)) := by
        simpa [itemPlaces, kindPlaces] using hplaces
      refine ⟨hes.replace hfind fun _ hfit => ⟨rfl, (hold hfit).1, hlines, hsound.nodup, hsound.fits⟩,
        places_replace_perm hfind hsame, ?_⟩
      obtain ⟨k'', hmem'⟩ := mem_replace_self hfind (.table .dotted inside')
      rcases hlines with hlines | hlines
      · exact .inl (ownLines_ne_nil hmem' fun hnil => hlines (ownLines_eq_nil_iff.mp hnil))
      · exact .inr (places_ne_nil hmem' (by simpa [itemPlaces, kindPlaces] using hlines))
  | case8 => cases h
  | case9 start kind k l path es elements hfind old inside helements ih =>
      obtain ⟨inside', hinside, heq⟩ := Option.bind_eq_some_iff.mp h
      cases heq
      obtain ⟨k', hmem, -, -, hold⟩ := hes.find hfind
      have hshort : 0 + (l :: path).length ≤ maxDepth := by
        simp only [List.length_cons] at hlength ⊢
        omega
      obtain ⟨hsound, hplaces, -⟩ := ih hinside (hes.of_last hfind helements) hkeys.2 hshort
      have hall : Alters m own depth true [] es _ :=
        hes.alter_last hfind helements (fun _ => hsound) hplaces fun _ _ _ hq => absurd hq List.not_mem_nil
      refine ⟨hall.sound, hall.places, .inr fun hnil => ?_⟩
      have hnone := hall.places
      rw [hnil] at hnone
      exact places_ne_nil hmem (elementPlaces_ne_nil hold.2.2.1 hold.2.2.2) hnone.nil_eq.symm

theorem Sound.alter_new {es : Entries} {k : Key} {i : Item} {new : List Nat}
    (hes : Sound m own depth owned es) (hnone : find? k.name es = none) (hk : k.Good)
    (hi : ItemFits m k (own + 1) (depth + 1) owned i) (hplaces : itemPlaces i = new)
    (hlines : ∀ path, itemLines path i = []) : Alters m own depth owned new es (es ++ [(k, i)]) := by
  refine ⟨hes.concat hnone hk hi, ?_, fun path => ?_⟩
  · simp only [places_append, Entries.places, hplaces, List.append_nil]
    exact List.perm_append_comm
  · rw [ownLines_append]
    simp [ownLines, hlines]

/-- Tables are opened at the end of a path when the last key can do so. -/
theorem openAt_sound {f : Key → Entries → Option Entries} {n : Nat}
    (hf : ∀ {k : Key} {es es' : Entries} {own depth : Nat} {owned : Bool}, f k es = some es' →
      Sound m own depth owned es → (∀ p ∈ places es, p ≤ n) → k.Good → Blank k.outer.before →
      depth + 1 ≤ maxDepth → Alters m own depth owned [n + 1] es es')
    {path : List Key} {es es' : Entries} (h : openAt f path es = some es')
    (hes : Sound m own depth owned es) (hbound : ∀ p ∈ places es, p ≤ n)
    (hkeys : GoodKeys Blank path) (hlength : depth + path.length ≤ maxDepth) :
    Alters m own depth owned [n + 1] es es' := by
  fun_induction openAt f path es generalizing own depth owned es' with
  | case1 => cases h
  | case2 k es => exact hf h hes hbound hkeys.1 hkeys.2 hlength
  | case3 k l path es hnone ih =>
      obtain ⟨inside, hinside, heq⟩ := Option.bind_eq_some_iff.mp h
      cases heq
      obtain ⟨⟨hk, hblank⟩, hkeys⟩ := hkeys
      have hshort : depth + 1 + (l :: path).length ≤ maxDepth := by
        simp only [List.length_cons] at hlength ⊢
        omega
      have hnew : Sound m (own + 1) (depth + 1) false [] := sound_nil
      have hinner := ih hinside hnew nofun hkeys hshort
      have hplaces : places inside = [n + 1] := List.perm_singleton.mp hinner.places
      have hne : places inside ≠ [] := hplaces ▸ List.cons_ne_nil _ _
      exact hes.alter_new hnone hk ⟨hblank, hne, hinner.sound.nodup, hinner.sound.fits⟩ hplaces
        fun _ => rfl
  | case4 => cases h
  | case5 k l path es kind inside hfind ih =>
      obtain ⟨inside', hinside, heq⟩ := Option.bind_eq_some_iff.mp h
      cases heq
      have hshort : depth + 1 + (l :: path).length ≤ maxDepth := by
        simp only [List.length_cons] at hlength ⊢
        omega
      have hinner {own' : Nat} {owned' : Bool} (hsound : Sound m own' (depth + 1) owned' inside) :=
        ih hinside hsound (fun p hp => hbound p (places_inside hfind hp)) hkeys.2 hshort
      obtain ⟨own', owned', -, hsound⟩ := hes.of_table hfind
      exact hes.alter_table hfind (fun _ _ _ hsound => (hinner hsound).sound) (hinner hsound).places
        fun _ => (hinner hsound).lines
  | case6 => cases h
  | case7 k l path es elements hfind kind inside helements ih =>
      obtain ⟨inside', hinside, heq⟩ := Option.bind_eq_some_iff.mp h
      cases heq
      have hshort : depth + 1 + (l :: path).length ≤ maxDepth := by
        simp only [List.length_cons] at hlength ⊢
        omega
      have hinner := ih hinside (hes.of_last hfind helements)
        (fun p hp => hbound p (places_last hfind helements hp)) hkeys.2 hshort
      refine hes.alter_last hfind helements (fun _ => hinner.sound) hinner.places ?_
      intro p hp q hq
      obtain rfl := List.mem_singleton.mp hq
      exact Nat.lt_succ_of_le (hbound p hp)

theorem openTable_sound {n : Nat} {space : Space} {path : List Key} {es es' : Entries}
    (h : openTable (.headed (n + 1) space) path es = some es') (hes : Sound m own depth owned es)
    (hbound : ∀ p ∈ places es, p ≤ n) (hkeys : GoodKeys Blank path)
    (hlength : depth + path.length ≤ maxDepth) (hspace : m.header space) :
    Alters m own depth owned [n + 1] es es' := by
  refine openAt_sound (fun {k es es' own depth owned} h hes _ hk hblank hdepth => ?_)
    h hes hbound hkeys hlength
  split at h
  · rename_i hnone
    cases h
    exact hes.alter_new hnone hk ⟨hblank, hdepth, hspace, List.nodup_nil, trivial⟩ rfl fun _ => rfl
  · rename_i inside hfind
    cases h
    obtain ⟨k', -, -, -, -, -, hnodup, hfits⟩ := hes.find hfind
    have hnone : find? k.name (remove k.name es) = none :=
      find?_eq_none_iff.mpr (not_mem_names_remove hes.nodup)
    refine ⟨(hes.remove k.name).concat hnone hk
      ⟨hblank, hdepth, hspace, hnodup, hfits.free _ _⟩, ?_, fun path => ?_⟩
    · obtain ⟨before, after, hplaces, hrest⟩ := places_remove hfind
      rw [places_append, hplaces, hrest]
      simp only [places, itemPlaces, kindPlaces]
      grind
    · rw [ownLines_append, ownLines_remove hfind fun _ => rfl]
      simp [ownLines, itemLines]
  · cases h

theorem openElement_sound {n : Nat} {space : Space} {path : List Key} {es es' : Entries}
    (h : openElement (.headed (n + 1) space) path es = some es') (hes : Sound m own depth owned es)
    (hbound : ∀ p ∈ places es, p ≤ n) (hkeys : GoodKeys Blank path)
    (hlength : depth + path.length ≤ maxDepth) (hspace : m.header space) :
    Alters m own depth owned [n + 1] es es' := by
  have hempty (depth : Nat) : Sound m 0 depth true [] := sound_nil
  refine openAt_sound (fun {k es es' own depth owned} h hes hbound hk hblank hdepth => ?_)
    h hes hbound hkeys hlength
  split at h
  · rename_i hnone
    cases h
    have hfirst : ElementsFit m (depth + 1) ([] ++ [(.headed (n + 1) space, [])]) :=
      elementsFit_concat.mpr ⟨trivial, ⟨_, _, rfl, hspace, nofun⟩, nofun, hempty _⟩
    exact hes.alter_new hnone hk ⟨hblank, hdepth, List.cons_ne_nil _ _, hfirst⟩ rfl fun _ => rfl
  · rename_i elements hfind
    cases h
    obtain ⟨k', hmem, -⟩ := mem_of_find? hfind
    refine ⟨hes.replace hfind fun _ hfit => ?_, places_replace_perm hfind ?_,
      ownLines_replace hfind fun _ => rfl⟩
    · obtain ⟨hblank, hdepth, hne, hfit⟩ := hfit
      refine ⟨hblank, hdepth, by simp, elementsFit_concat.mpr
        ⟨hfit, ⟨_, _, rfl, hspace, nofun⟩, fun p hp q hq => ?_, hempty _⟩⟩
      obtain rfl : q = n + 1 := by simpa [kindPlaces, places] using hq
      exact Nat.lt_succ_of_le (hbound p (itemPlaces_subset hmem hp))
    · simp only [itemPlaces, elementPlaces_append, elementPlaces, kindPlaces, places]
      exact List.perm_append_comm
  · cases h

end Entries

end ServerLink.Toml
