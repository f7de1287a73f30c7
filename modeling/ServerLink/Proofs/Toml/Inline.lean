import ServerLink.Proofs.Toml.Value

namespace ServerLink.Toml

theorem GoodKeys.good {last : List Char → Prop} {path : List Key} (h : GoodKeys last path) :
    ∀ k ∈ path, k.Good := by
  fun_induction GoodKeys last path with
  | case1 => exact List.forall_mem_nil _
  | case2 k => exact List.forall_mem_singleton.mpr h.1
  | case3 k l ks ih => exact List.forall_mem_cons.mpr ⟨h.1.1, ih h.2⟩

theorem GoodKeys.last {last : List Char → Prop} {k : Key} {ks : List Key}
    (h : GoodKeys last (k :: ks)) : last ((k :: ks).getLastD k).outer.before := by
  induction ks generalizing k with
  | nil => exact h.2
  | cons l ks ih => simpa [List.getLast?_cons] using ih h.2

theorem solid_of_opensName {c : Char} {s : List Char} (hc : opensName c = true) : Solid (c :: s) := by
  rintro d ⟨⟩
  exact (ne_of_opensName hc).1

theorem Key.Good.starts_writeKeys {k : Key} (hk : k.Good) (ks : List Key) (rest : List Char) :
    ∃ c s, writeKeys k ks ++ rest = c :: s ∧ opensName c = true := by
  obtain ⟨c, w, hwritten, hc⟩ := hk.starts
  cases ks <;> exact ⟨c, _, by rw [writeKeys, hwritten]; rfl, hc⟩

theorem readPath_writePath {path : List Key} (hne : path ≠ []) (hlength : path.length ≤ maxDepth)
    (hkeys : GoodKeys IsGap path) {rest : List Char} (hrest : EndsPath rest) :
    ∃ gap r path' t, readGap false (writePath path ++ rest) = some (gap, r) ∧
      (∃ c s, r = c :: s ∧ opensName c = true) ∧ readPath gap r = some (path', t) ∧ t.1 = rest ∧
      path'.map (·.name) = path.map (·.name) := by
  obtain ⟨k, ks, rfl⟩ := List.exists_cons_of_ne_nil hne
  obtain ⟨hk, hks⟩ := List.forall_mem_cons.mp hkeys.good
  have hgap : IsGap ((k :: ks).getLastD k).outer.before := hkeys.last
  obtain ⟨path', t, hread, ht, hnames⟩ :=
    readPath_writeKeys hk hks hlength ((k :: ks).getLastD k).outer.before blank_nil hrest
  obtain ⟨c, s, hs, hc⟩ := hk.starts_writeKeys ks rest
  refine ⟨_, writeKeys k ks ++ rest, path', t, ?_, ⟨c, s, hs, hc⟩, hread, ht, hnames⟩
  rw [writePath, List.append_assoc]
  exact hgap.readGap (hs ▸ solid_of_opensName hc)

/-- What is asked of the entries of a table in braces. -/
def inlineManner (read : ValueReader) : Manner where
  value space v := (Blank space.before ∧ IsGap space.after) ∧ v.Rereads read
  header _ := False

/-- How an entry is cut off in a table in braces, up to the gap behind its value. -/
def CutsEntry (read : ValueReader) (s : List Char) (line : Line) (rest : List Char) : Prop :=
  ∃ gap r path t u v t' after, readGap false s = some (gap, r) ∧ r.head? ≠ some '\x7d' ∧
    readPath gap r = some (path, t) ∧ t.1 = '=' :: u ∧ read (splitSpace u).2 = some (v, t') ∧
    readGap false t'.1 = some (after, rest) ∧ line = .entry path ⟨(splitSpace u).1, after⟩ v

section

variable {read : ValueReader} {s : List Char} {line : Line}

theorem readEntries_close {gap r : List Char} (hgap : readGap false s = some (gap, '\x7d' :: r)) :
    readEntries read s = some (([], gap), r) := by
  rw [readEntries, hgap]
  rfl

theorem readEntries_one {r : List Char} (h : CutsEntry read s line ('\x7d' :: r)) :
    readEntries read s = some (([line], []), r) := by
  obtain ⟨gap, r', path, t, u, v, t', after, hgap, hr, hpath, ht, hread, hafter, rfl⟩ := h
  rw [readEntries, hgap]
  simp only [Option.bind_eq_bind, Option.bind_some, hpath]
  split
  · exact absurd rfl hr
  · simp [ht, hread, hafter]

theorem readEntries_more {r last q : List Char} {lines : List Line}
    (h : CutsEntry read s line (',' :: r)) (hlt : r.length < s.length)
    (hmore : readEntries read r = some ((lines, last), q)) :
    readEntries read s =
      some ((line :: lines, if lines.isEmpty then ',' :: last else last), q) := by
  obtain ⟨gap, r', path, t, u, v, t', after, hgap, hr, hpath, ht, hread, hafter, rfl⟩ := h
  rw [readEntries, hgap]
  simp only [Option.bind_eq_bind, Option.bind_some, hpath]
  split
  · exact absurd rfl hr
  · simp [ht, hread, hafter, Shorter.of?_of_lt hlt, hmore]

/-- How the entries of a table in braces are read: there is none, or one, or one with others behind a
comma. -/
theorem readEntries_inv {lines : List Line} {last q : List Char}
    (h : readEntries read s = some ((lines, last), q)) :
    (readGap false s = some (last, '\x7d' :: q) ∧ lines = []) ∨
      ∃ line, (CutsEntry read s line ('\x7d' :: q) ∧ lines = [line] ∧ last = []) ∨
        ∃ u more last', CutsEntry read s line (',' :: u) ∧ u.length < s.length ∧
          readEntries read u = some ((more, last'), q) ∧ lines = line :: more ∧
          last = if more.isEmpty then ',' :: last' else last' := by
  rw [readEntries] at h
  obtain ⟨⟨gap, r⟩, hgap, h⟩ := Option.bind_eq_some_iff.mp h
  dsimp only at h
  split at h
  · cases h
    exact .inl ⟨hgap, rfl⟩
  · rename_i hbrace
    obtain ⟨⟨path, t⟩, hpath, h⟩ := Option.bind_eq_some_iff.mp h
    dsimp only at h
    split at h
    · rename_i u hequals
      obtain ⟨⟨v, t'⟩, hread, h⟩ := Option.bind_eq_some_iff.mp h
      obtain ⟨⟨after, r'⟩, hafter, h⟩ := Option.bind_eq_some_iff.mp h
      have hr : r.head? ≠ some '\x7d' := by
        cases r with
        | nil => simp
        | cons c r => exact fun h => hbrace r (by rw [Option.some.inj h])
      have hcuts : CutsEntry read s (.entry path ⟨(splitSpace u).1, after⟩ v) r' :=
        ⟨gap, r, path, t, u, v, t', after, hgap, hr, hpath, hequals, hread, hafter, rfl⟩
      dsimp only at h
      split at h
      · cases h
        exact .inr ⟨_, .inl ⟨hcuts, rfl, rfl⟩⟩
      · obtain ⟨rest, hrest, h⟩ := Option.bind_eq_some_iff.mp h
        obtain ⟨⟨⟨more, last'⟩, q'⟩, hmore, h⟩ := Option.bind_eq_some_iff.mp h
        cases h
        have hlt := rest.2
        rw [Shorter.eq_of_of? hrest] at hmore hlt
        exact .inr ⟨_, .inr ⟨_, more, last', hcuts, hlt, hmore, rfl, rfl⟩⟩
      · cases h
    · cases h

theorem CutsEntry.fits (hsteady : read.Steady) {rest : List Char} (h : CutsEntry read s line rest)
    (hrest : rest ≠ []) : line.Fits (inlineManner read) := by
  obtain ⟨gap, r, path, t, u, v, t', after, hgap, -, hpath, -, hread, hafter, rfl⟩ := h
  have hr : r ≠ [] := List.ne_nil_of_length_pos (Nat.zero_lt_of_lt t.2)
  have hg : IsGap gap := isGap_of_readGap hgap hr
  have hgood := goodPath_of_readPath hpath
  obtain ⟨-, hblank, -⟩ := of_splitSpace (rfl : splitSpace u = _)
  refine ⟨⟨hgood.ne_nil, hgood.length, hgood.keys.mono ?_⟩,
    ⟨hblank, isGap_of_readGap hafter hrest⟩, hsteady hread⟩
  rintro b ⟨blank, hb, rfl⟩
  exact hg.append hb.isGap

theorem cutsEntry_body (h : line.Fits (inlineManner read)) {c : Char} (hc : c = ',' ∨ c = '\x7d')
    (u : List Char) : ∃ line', line'.gist = line.gist ∧
      CutsEntry read (line.body ++ c :: u) line' (c :: u) := by
  cases line with
  | header isArray path space => exact h.2.elim
  | entry path space v =>
      obtain ⟨⟨hne, hlength, hkeys⟩, ⟨hbefore, hafter⟩, hv⟩ := h
      obtain ⟨v', t', hread, ht', hsense⟩ :=
        hv.again (space.after ++ c :: u) (hafter.follows (hc.imp_right .inr) u)
      have hspace : splitSpace (space.before ++ (v.written ++ (space.after ++ c :: u))) =
          (space.before, v.written ++ (space.after ++ c :: u)) :=
        splitSpace_append hbefore fun d hd => ((hv.solid _).1 d hd).1
      have hends : EndsPath ('=' :: (space.before ++ (v.written ++ (space.after ++ c :: u)))) :=
        .inl rfl
      obtain ⟨gap, r, path', t, hgap, ⟨d, r', rfl, hd⟩, hpath, ht, hnames⟩ :=
        readPath_writePath hne hlength hkeys hends
      have hread : ∃ t'', read (splitSpace (space.before ++ (v.written ++ (space.after ++ c :: u)))).2 =
          some (v', t'') ∧ t''.1 = space.after ++ c :: u := by
        rw [hspace]
        exact ⟨t', hread, ht'⟩
      obtain ⟨t', hread, ht'⟩ := hread
      have hgap' : readGap false t'.1 = some (space.after, c :: u) := by
        rw [ht']
        exact hafter.readGap (by rintro e ⟨⟩; rcases hc with rfl | rfl <;> decide)
      have hbrace : (d :: r').head? ≠ some '\x7d' :=
        fun heq => (ne_of_opensName hd).2.2 (Option.some.inj heq)
      have hbody : (Line.entry path space v).body ++ c :: u =
          writePath path ++ '=' :: (space.before ++ (v.written ++ (space.after ++ c :: u))) := by
        simp [Line.body]
      refine ⟨_, ?_, gap, d :: r', path', t, _, v', t', space.after, hbody ▸ hgap, hbrace, hpath, ht,
        hread, hgap', rfl⟩
      rw [Line.gist, Line.gist, hnames, hsense]

/-- What stands behind the last entry of a table in braces. -/
def EndsEntries (lines : List Line) (last : List Char) : Prop :=
  if lines = [] then IsGap last else last = [] ∨ ∃ gap, last = ',' :: gap ∧ IsGap gap

theorem readEntries_fit (hsteady : read.Steady) {lines : List Line} {last q : List Char}
    (h : readEntries read s = some ((lines, last), q)) :
    (∀ l ∈ lines, l.Fits (inlineManner read)) ∧ EndsEntries lines last := by
  induction hn : s.length using Nat.strongRecOn generalizing s lines last q with
  | ind n ih =>
      rcases readEntries_inv h with ⟨hgap, rfl⟩ | ⟨line, ⟨hcuts, rfl, rfl⟩ |
        ⟨u, more, last', hcuts, hlt, hmore, rfl, rfl⟩⟩
      · exact ⟨List.forall_mem_nil _, isGap_of_readGap hgap nofun⟩
      · exact ⟨List.forall_mem_singleton.mpr (hcuts.fits hsteady nofun), .inl rfl⟩
      · obtain ⟨hfits, hends⟩ := ih u.length (hn ▸ hlt) hmore rfl
        refine ⟨List.forall_mem_cons.mpr ⟨hcuts.fits hsteady nofun, hfits⟩, ?_⟩
        cases more with
        | nil => exact .inr ⟨last', rfl, hends⟩
        | cons => exact hends

/-- Entries that are written are read again as saying the same. -/
theorem readEntries_write {lines : List Line} (hne : lines ≠ [])
    (hfits : ∀ l ∈ lines, l.Fits (inlineManner read)) {last : List Char}
    (hlast : last = [] ∨ ∃ gap, last = ',' :: gap ∧ IsGap gap) (q : List Char) :
    ∃ lines' last',
      readEntries read (Text.joinWith ',' (lines.map Line.body) ++ (last ++ '\x7d' :: q)) =
        some ((lines', last'), q) ∧ lines'.map Line.gist = lines.map Line.gist := by
  induction lines with
  | nil => exact absurd rfl hne
  | cons line lines ih =>
      obtain ⟨hline, hrest⟩ := List.forall_mem_cons.mp hfits
      have hmore (u : List Char) {lines' : List Line} {last' : List Char}
          (hread : readEntries read u = some ((lines', last'), q))
          (hgists : lines'.map Line.gist = lines.map Line.gist) : ∃ lines'' last'',
          readEntries read (line.body ++ ',' :: u) = some ((lines'', last''), q) ∧
            lines''.map Line.gist = (line :: lines).map Line.gist := by
        obtain ⟨line', hgist, hcuts⟩ := cutsEntry_body hline (.inl rfl) u
        have hlt : u.length < (line.body ++ ',' :: u).length := by
          simp only [List.length_append, List.length_cons]
          omega
        exact ⟨_, _, readEntries_more hcuts hlt hread, congrArg₂ List.cons hgist hgists⟩
      cases lines with
      | nil =>
          rcases hlast with rfl | ⟨gap, rfl, hgap⟩
          · obtain ⟨line', hgist, hcuts⟩ := cutsEntry_body hline (.inr rfl) q
            exact ⟨[line'], [], readEntries_one hcuts, congrArg (· :: []) hgist⟩
          · have hclose : readGap false (gap ++ '\x7d' :: q) = some (gap, '\x7d' :: q) :=
              hgap.readGap (by rintro d ⟨⟩; decide)
            obtain ⟨lines'', last'', hread, hgists⟩ := hmore _ (readEntries_close hclose) rfl
            exact ⟨lines'', last'', by simpa [Text.joinWith] using hread, hgists⟩
      | cons next lines =>
          obtain ⟨lines', last', hread, hgists⟩ := ih (List.cons_ne_nil _ _) hrest
          obtain ⟨lines'', last'', hread, hgists⟩ := hmore _ hread hgists
          exact ⟨lines'', last'', by simpa [Text.joinWith] using hread, hgists⟩

end

namespace Entries

variable {m : Manner} {own depth : Nat} {owned : Bool}

theorem map_contents (es : Entries) : (contents es).map (·.1) = names es := by
  induction es with
  | nil => rfl
  | cons e es ih =>
      obtain ⟨k, i⟩ := e
      rw [contents, List.map_cons, ih, names_cons]

mutual

theorem distinct_itemContent (hm : ∀ space v, m.value space v → v.content.Distinct) {k : Key} : ∀ {i : Item} {own depth : Nat} {owned : Bool},
    ItemFits m k own depth owned i → (itemContent i).Distinct
  | .value space v, _, _, _, hi => hm space v hi.2.2.2
  | .table kind es, _, _, _, hi => by
      obtain ⟨own', owned', hnames, hes⟩ := hi.inside
      exact ⟨map_contents es ▸ hnames, distinct_contents hm hes⟩
  | .tables elements, _, _, _, hi => distinct_elementContents hm hi.2.2.2

theorem distinct_contents (hm : ∀ space v, m.value space v → v.content.Distinct) : ∀ {es : List (Key × Item)} {own depth : Nat} {owned : Bool},
    Fits m own depth owned es → EntriesDistinct (contents es)
  | [], _, _, _, _ => trivial
  | (_, _) :: _, _, _, _, hes => ⟨distinct_itemContent hm hes.1.2, distinct_contents hm hes.2⟩

theorem distinct_elementContents (hm : ∀ space v, m.value space v → v.content.Distinct) :
    ∀ {elements : List (TableKind × List (Key × Item))} {depth : Nat}, ElementsFit m depth elements → ItemsDistinct (elementContents elements)
  | [], _, _ => trivial
  | (_, es) :: _, _, h =>
      ⟨⟨map_contents es ▸ h.2.2.1.1, distinct_contents hm h.2.2.1.2⟩,
        distinct_elementContents hm h.2.2.2⟩

end

theorem addValue_ne_nil {start : Bool} {kind : TableKind} {item : Item} {path : List Key}
    {es es' : Entries} (h : addValue start kind item path es = some es') : es' ≠ [] := by
  have hreplace {es : Entries} {name : String} {i j : Item} (hfind : find? name es = some i) :
      replace name j es ≠ [] := by
    obtain ⟨k, hmem⟩ := mem_replace_self hfind j
    exact List.ne_nil_of_mem hmem
  fun_induction addValue start kind item path es generalizing es' with
  | case1 | case2 | case5 | case6 | case8 => cases h
  | case3 =>
      cases h
      simp
  | case4 =>
      obtain ⟨inside, -, heq⟩ := Option.bind_eq_some_iff.mp h
      cases heq
      simp
  | case7 start kind k l path es old inside hfind =>
      obtain ⟨inside', -, heq⟩ := Option.bind_eq_some_iff.mp h
      cases heq
      exact hreplace hfind
  | case9 start kind k l path es elements hfind =>
      obtain ⟨inside', -, heq⟩ := Option.bind_eq_some_iff.mp h
      cases heq
      exact hreplace hfind

theorem ownLines_ne_nil_of_places {es : Entries} (hes : Sound m own depth owned es) (hne : es ≠ [])
    (hplaces : places es = []) : ownLines [] es ≠ [] := by
  obtain ⟨⟨k, i⟩, es, rfl⟩ := List.exists_cons_of_ne_nil hne
  obtain ⟨hi, -⟩ := List.append_eq_nil_iff.mp hplaces
  obtain ⟨-, hfit⟩ := hes.mem List.mem_cons_self
  refine fun hnil => ?_
  obtain ⟨hlines, -⟩ := List.append_eq_nil_iff.mp hnil
  cases i with
  | value => cases hlines
  | table kind inside =>
      obtain ⟨hkind, hinside⟩ := List.append_eq_nil_iff.mp hi
      cases kind with
      | headed => cases hkind
      | implied => exact hfit.2.1 hinside
      | dotted =>
          exact hfit.2.2.1.elim (fun h => h (ownLines_eq_nil_iff.mp hlines)) fun h => h hinside
  | tables elements => exact elementPlaces_ne_nil hfit.2.2.1 hfit.2.2.2 hi

theorem addLines_ne_nil {read : ValueReader} {n : Nat} {lines : List Line} {es es' : Entries}
    (h : addLines n [] lines es = some es') (hfits : ∀ l ∈ lines, l.Fits (inlineManner read))
    (hne : lines ≠ [] ∨ es ≠ []) : es' ≠ [] := by
  induction lines generalizing es with
  | nil =>
      cases h
      exact hne.resolve_left fun hne => hne rfl
  | cons line lines ih =>
      obtain ⟨hline, hrest⟩ := List.forall_mem_cons.mp hfits
      cases line with
      | header => exact hline.2.elim
      | entry path space v =>
          obtain ⟨es₁, hadd, h⟩ := Option.bind_eq_some_iff.mp h
          exact ih h hrest (.inr (addValue_ne_nil hadd))

end Entries

section Table

variable {read : ValueReader}

/-- A table in braces is put together from entries, and what is written of it are its own lines. -/
theorem lines_of_entries {lines : List Line} {es : Entries} (hes : Entries.ofLines? lines = some es)
    (hfits : ∀ l ∈ lines, l.Fits (inlineManner read)) :
    (∃ n current, Entries.Standing (inlineManner read) n current es) ∧
      Entries.lines es = Entries.ownLines [] es ∧ (Entries.ownLines [] es = [] ↔ lines = []) := by
  obtain ⟨n, current, hstanding⟩ := Entries.ofLines?_standing hes hfits
  have hplaces : Entries.places es = [] := Decidable.byContradiction fun hne => by
    obtain ⟨space, hfalse⟩ := hstanding.headers hne
    exact hfalse
  have hsections : Entries.sections [] es = [] := by
    rw [← List.map_eq_nil_iff, Entries.places_sections, hplaces]
  refine ⟨⟨n, current, hstanding⟩, by simp [Entries.lines, hsections], fun hnil => ?_, ?_⟩
  · refine Decidable.byContradiction fun hne => ?_
    exact Entries.ownLines_ne_nil_of_places hstanding.sound
      (Entries.addLines_ne_nil hes hfits (.inl hne)) hplaces hnil
  · rintro rfl
    cases hes
    rfl

theorem rereads_of_table {depth : Nat} (hsteady : ValueReader.Steady (readValue depth))
    {s last q : List Char} {lines : List Line} {es : Entries}
    (h : readEntries (readValue depth) s = some ((lines, last), q))
    (hes : Entries.ofLines? lines = some es) :
    Value.Rereads (readValue (depth + 1))
      ⟨.table (Entries.contents es), '\x7b' :: Entries.writeInline es ++ last ++ ['\x7d']⟩ := by
  obtain ⟨hfits, hends⟩ := readEntries_fit hsteady h
  obtain ⟨⟨n, current, hstanding⟩, hlines, hempty⟩ := lines_of_entries hes hfits
  refine ⟨⟨'\x7b', _, rfl, by decide⟩, ?_, fun q' _ => ?_⟩
  · exact ⟨Entries.map_contents es ▸ hstanding.sound.nodup,
      Entries.distinct_contents (m := inlineManner _) (fun _ _ hv => hv.2.distinct)
        hstanding.sound.fits⟩
  · have hagain : ∃ lines' last' es',
        readEntries (readValue depth) (Entries.writeInline es ++ (last ++ '\x7d' :: q')) =
          some ((lines', last'), q') ∧ Entries.ofLines? lines' = some es' ∧
          senses (Entries.contents es') = senses (Entries.contents es) := by
      by_cases hnil : lines = []
      · subst hnil
        cases hes
        have hgap : IsGap last := hends
        have hclose : readGap false (last ++ '\x7d' :: q') = some (last, '\x7d' :: q') :=
          hgap.readGap (by rintro c ⟨⟩; decide)
        exact ⟨[], last, [], readEntries_close hclose, rfl, rfl⟩
      · have hown : ∀ l ∈ Entries.ownLines [] es, l.Fits (inlineManner (readValue depth)) :=
          hlines ▸ Entries.lines_fit hstanding.sound
        rw [EndsEntries, if_neg hnil] at hends
        obtain ⟨lines', last', hread, hgists⟩ :=
          readEntries_write (fun h => hnil (hempty.mp h)) hown hends q'
        obtain ⟨es', hes', hsenses⟩ :=
          Entries.rebuild hstanding.sound hstanding.distinct (readEntries_fit hsteady hread).1
            (hlines ▸ hgists)
        exact ⟨lines', last', es', hread, hes', hsenses⟩
    obtain ⟨lines', last', es', hread, hes', hsenses⟩ := hagain
    have hlt : q'.length < ('\x7b' :: (Entries.writeInline es ++ (last ++ '\x7d' :: q'))).length := by
      simp only [List.length_cons, List.length_append]
      omega
    have htext : '\x7b' :: Entries.writeInline es ++ last ++ ['\x7d'] ++ q' =
        '\x7b' :: (Entries.writeInline es ++ (last ++ '\x7d' :: q')) := by simp
    rw [htext]
    refine ⟨⟨.table (Entries.contents es'), '\x7b' :: Entries.writeInline es' ++ last' ++ ['\x7d']⟩,
      ⟨q', hlt⟩, ?_, rfl, congrArg Sense.table hsenses⟩
    simp [readValue, hread, hes', Shorter.of?_of_lt hlt]

end Table

theorem steady_of_inner {depth : Nat}
    (hinner : ∀ inner, depth = inner + 1 → ValueReader.Steady (readValue inner)) :
    ValueReader.Steady (readValue depth) := by
  intro s v t h
  unfold readValue at h
  split at h
  iterate 2
    obtain ⟨⟨text, rest⟩, hread, h⟩ := Option.bind_eq_some_iff.mp h
    obtain ⟨t, -, heq⟩ := Option.bind_eq_some_iff.mp h
    cases heq
    exact rereads_of_string hread
  · split at h
    · cases h
    · rename_i depth
      obtain ⟨⟨⟨contents, written⟩, rest⟩, hread, h⟩ := Option.bind_eq_some_iff.mp h
      obtain ⟨t, -, heq⟩ := Option.bind_eq_some_iff.mp h
      cases heq
      exact rereads_of_array (hinner depth rfl) hread
  · split at h
    · cases h
    · rename_i depth
      obtain ⟨⟨⟨lines, last⟩, rest⟩, hread, h⟩ := Option.bind_eq_some_iff.mp h
      obtain ⟨entries, hentries, h⟩ := Option.bind_eq_some_iff.mp h
      obtain ⟨t, -, heq⟩ := Option.bind_eq_some_iff.mp h
      cases heq
      exact rereads_of_table (hinner depth rfl) hread hentries
  · obtain ⟨⟨v, rest⟩, hread, h⟩ := Option.bind_eq_some_iff.mp h
    obtain ⟨t, -, heq⟩ := Option.bind_eq_some_iff.mp h
    cases heq
    exact rereads_of_word hread

/-- Values are read again, however deep they are nested. -/
theorem steady_readValue (depth : Nat) : ValueReader.Steady (readValue depth) := by
  induction depth with
  | zero => exact steady_of_inner (by rintro inner ⟨⟩)
  | succ depth ih => exact steady_of_inner (by rintro inner ⟨⟩; exact ih)

end ServerLink.Toml
