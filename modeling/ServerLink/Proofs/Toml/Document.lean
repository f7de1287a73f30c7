import ServerLink.Proofs.Toml.Inline

namespace ServerLink.Toml

/-- What is asked of the lines of a document. -/
def documentManner : Manner where
  value space v := (Blank space.before ∧ EndsLine space.after) ∧ v.Rereads (readValue maxDepth)
  header space := IsGap space.before ∧ EndsLine space.after

/-- How a line that says something is cut off. -/
def CutsLine (s : List Char) (line : Line) (rest : List Char) : Prop :=
  ∃ gap r, readGap false s = some (gap, r) ∧ r ≠ [] ∧ readLine gap r = some (line, rest)

theorem readLines_nil {s gap : List Char} (hgap : readGap false s = some (gap, [])) :
    readLines s = some ([], gap) := by
  rw [readLines, hgap]
  rfl

theorem readLines_cons {s rest last : List Char} {line : Line} {lines : List Line}
    (h : CutsLine s line rest) (hlt : rest.length < s.length)
    (hmore : readLines rest = some (lines, last)) : readLines s = some (line :: lines, last) := by
  obtain ⟨gap, r, hgap, hr, hline⟩ := h
  rw [readLines, hgap]
  simp [hline, Shorter.of?_of_lt hlt, hmore]

theorem readLines_inv {s last : List Char} {lines : List Line} (h : readLines s = some (lines, last)) :
    (readGap false s = some (last, []) ∧ lines = []) ∨
      ∃ line rest more, CutsLine s line rest ∧ rest.length < s.length ∧
        readLines rest = some (more, last) ∧ lines = line :: more := by
  rw [readLines] at h
  obtain ⟨⟨gap, r⟩, hgap, h⟩ := Option.bind_eq_some_iff.mp h
  dsimp only at h
  split at h
  · cases h
    exact .inl ⟨hgap, rfl⟩
  · rename_i hr
    obtain ⟨⟨line, rest⟩, hline, h⟩ := Option.bind_eq_some_iff.mp h
    obtain ⟨t, ht, h⟩ := Option.bind_eq_some_iff.mp h
    obtain ⟨⟨more, last'⟩, hmore, h⟩ := Option.bind_eq_some_iff.mp h
    cases h
    have hlt := t.2
    rw [Shorter.eq_of_of? ht] at hmore hlt
    exact .inr ⟨line, rest, more, ⟨gap, r, hgap, hr, hline⟩, hlt, hmore, rfl⟩

theorem readHeader_fits {isArray : Bool} {before s rest : List Char} {line : Line}
    (hbefore : IsGap before) (h : readHeader isArray before s = some (line, rest)) :
    line.Fits documentManner := by
  obtain ⟨⟨path, t⟩, hpath, h⟩ := Option.bind_eq_some_iff.mp h
  obtain ⟨r, -, h⟩ := Option.bind_eq_some_iff.mp h
  obtain ⟨⟨after, r'⟩, hafter, h⟩ := Option.bind_eq_some_iff.mp h
  cases h
  have hgood := goodPath_of_readPath hpath
  refine ⟨⟨hgood.ne_nil, hgood.length, hgood.keys.mono ?_⟩, hbefore, endsLine_of_readLineEnd hafter⟩
  rintro b ⟨blank, hb, rfl⟩
  exact hb

theorem readEntry_fits {before s rest : List Char} {line : Line} (hbefore : IsGap before)
    (h : readEntry before s = some (line, rest)) : line.Fits documentManner := by
  obtain ⟨⟨path, t⟩, hpath, h⟩ := Option.bind_eq_some_iff.mp h
  dsimp only at h
  split at h
  · rename_i r _
    obtain ⟨⟨v, t'⟩, hread, h⟩ := Option.bind_eq_some_iff.mp h
    obtain ⟨⟨after, r'⟩, hafter, h⟩ := Option.bind_eq_some_iff.mp h
    cases h
    have hgood := goodPath_of_readPath hpath
    obtain ⟨-, hblank, -⟩ := of_splitSpace (rfl : splitSpace r = _)
    refine ⟨⟨hgood.ne_nil, hgood.length, hgood.keys.mono ?_⟩,
      ⟨hblank, endsLine_of_readLineEnd hafter⟩, steady_readValue maxDepth hread⟩
    rintro b ⟨blank, hb, rfl⟩
    exact hbefore.append hb.isGap
  · cases h

theorem CutsLine.fits {s rest : List Char} {line : Line} (h : CutsLine s line rest) :
    line.Fits documentManner := by
  obtain ⟨gap, r, hgap, hr, hline⟩ := h
  have hg : IsGap gap := isGap_of_readGap hgap hr
  unfold readLine at hline
  split at hline
  · exact readHeader_fits hg hline
  · exact readHeader_fits hg hline
  · exact readEntry_fits hg hline

theorem readBrackets_write (isArray : Bool) (s : List Char) :
    readBrackets isArray (if isArray then ']' :: ']' :: s else ']' :: s) = some s := by
  cases isArray <;> rfl

theorem readHeader_write {path : List Key} (hne : path ≠ []) (hlength : path.length ≤ maxDepth)
    (hkeys : GoodKeys Blank path) {after : List Char} (hafter : EndsLine after) (isArray : Bool)
    (before rest : List Char) :
    ∃ path', path'.map (·.name) = path.map (·.name) ∧
      readHeader isArray before (writePath path ++
        (if isArray then ']' :: ']' :: (after ++ '\n' :: rest) else ']' :: (after ++ '\n' :: rest))) =
          some (.header isArray path' ⟨before, after⟩, rest) := by
  obtain ⟨k, ks, rfl⟩ := List.exists_cons_of_ne_nil hne
  obtain ⟨hk, hks⟩ := List.forall_mem_cons.mp hkeys.good
  have hends : EndsPath (if isArray then ']' :: ']' :: (after ++ '\n' :: rest)
      else ']' :: (after ++ '\n' :: rest)) := by
    cases isArray <;> exact .inr rfl
  obtain ⟨path', t, hread, ht, hnames⟩ := readPath_writeKeys hk hks hlength [] hkeys.last hends
  refine ⟨path', hnames, ?_⟩
  rw [readHeader, writePath, List.append_assoc, hread]
  simp [ht, readBrackets_write, hafter rest]

theorem head_writePath {path : List Key} (hne : path ≠ []) (hkeys : GoodKeys Blank path)
    (rest : List Char) : (writePath path ++ rest).head? ≠ some '[' := by
  obtain ⟨k, ks, rfl⟩ := List.exists_cons_of_ne_nil hne
  obtain ⟨hk, -⟩ := List.forall_mem_cons.mp hkeys.good
  have hblank : Blank ((k :: ks).getLastD k).outer.before := hkeys.last
  rw [writePath, List.append_assoc]
  cases hspace : ((k :: ks).getLastD k).outer.before with
  | nil =>
      obtain ⟨c, s, hs, hc⟩ := hk.starts_writeKeys ks rest
      rw [List.nil_append, hs]
      exact fun h => (ne_of_opensName hc).2.1 (Option.some.inj h)
  | cons c b =>
      rw [hspace] at hblank
      intro h
      cases h
      cases hblank '[' List.mem_cons_self

theorem readLine_header {before s : List Char} (h : s.head? ≠ some '[') :
    readLine before ('[' :: s) = readHeader false before s := by
  unfold readLine
  split
  · rename_i heq
    cases heq
    exact absurd rfl h
  · rename_i heq
    cases heq
    rfl
  · rename_i hone
    exact absurd rfl (hone s)

theorem readLine_entry {before s : List Char} (h : s.head? ≠ some '[') :
    readLine before s = readEntry before s := by
  unfold readLine
  split
  · exact absurd rfl h
  · exact absurd rfl h
  · rfl

theorem solid_bracket (s : List Char) : Solid ('[' :: s) := by
  rintro c ⟨⟩
  decide

/-- A line that fits in is cut off again where it is written. -/
theorem cutsLine_write {line : Line} (h : line.Fits documentManner) (rest : List Char) :
    ∃ line', line'.gist = line.gist ∧ CutsLine (line.write ++ rest) line' rest := by
  cases line with
  | header isArray path space =>
      obtain ⟨⟨hne, hlength, hkeys⟩, hbefore, hafter⟩ := h
      obtain ⟨path', hnames, hread⟩ := readHeader_write hne hlength hkeys hafter isArray space.before rest
      refine ⟨.header isArray path' ⟨space.before, space.after⟩, by rw [Line.gist, Line.gist, hnames], ?_⟩
      cases isArray with
      | true =>
          have htext : (Line.header true path space).write ++ rest =
              space.before ++ '[' :: '[' :: (writePath path ++ ']' :: ']' :: (space.after ++ '\n' :: rest)) := by
            simp [Line.write, Line.body]
          rw [htext]
          exact ⟨_, _, hbefore.readGap (solid_bracket _), List.cons_ne_nil _ _, hread⟩
      | false =>
          have htext : (Line.header false path space).write ++ rest =
              space.before ++ '[' :: (writePath path ++ ']' :: (space.after ++ '\n' :: rest)) := by
            simp [Line.write, Line.body]
          rw [htext]
          exact ⟨_, _, hbefore.readGap (solid_bracket _), List.cons_ne_nil _ _,
            (readLine_header (head_writePath hne hkeys _)).trans hread⟩
  | entry path space v =>
      obtain ⟨⟨hne, hlength, hkeys⟩, ⟨hbefore, hafter⟩, hv⟩ := h
      obtain ⟨v', t', hread, ht', hsense⟩ := hv.again (space.after ++ '\n' :: rest) (hafter.follows rest)
      have hspace : splitSpace (space.before ++ (v.written ++ (space.after ++ '\n' :: rest))) =
          (space.before, v.written ++ (space.after ++ '\n' :: rest)) :=
        splitSpace_append hbefore fun d hd => ((hv.solid _).1 d hd).1
      have hends : EndsPath ('=' :: (space.before ++ (v.written ++ (space.after ++ '\n' :: rest)))) :=
        .inl rfl
      obtain ⟨gap, r, path', t, hgap, ⟨c, s, rfl, hc⟩, hpath, ht, hnames⟩ :=
        readPath_writePath hne hlength hkeys hends
      have htext : (Line.entry path space v).write ++ rest =
          writePath path ++ '=' :: (space.before ++ (v.written ++ (space.after ++ '\n' :: rest))) := by
        simp [Line.write, Line.body]
      refine ⟨.entry path' ⟨space.before, space.after⟩ v', by rw [Line.gist, Line.gist, hnames, hsense],
        gap, c :: s, htext ▸ hgap, List.cons_ne_nil _ _, ?_⟩
      have hbracket : (c :: s).head? ≠ some '[' :=
        fun heq => (ne_of_opensName hc).2.1 (Option.some.inj heq)
      have hread : ∃ t', readValue maxDepth
          (splitSpace (space.before ++ (v.written ++ (space.after ++ '\n' :: rest)))).2 = some (v', t') ∧
            t'.1 = space.after ++ '\n' :: rest := by
        rw [hspace]
        exact ⟨t', hread, ht'⟩
      obtain ⟨t', hread, ht'⟩ := hread
      rw [readLine_entry hbracket, readEntry, hpath]
      simp [ht, hread, ht', hafter rest, hspace]

theorem readLines_fit {s last : List Char} {lines : List Line} (h : readLines s = some (lines, last)) :
    (∀ l ∈ lines, l.Fits documentManner) ∧ readGap false last = some (last, []) := by
  induction hn : s.length using Nat.strongRecOn generalizing s lines with
  | ind n ih =>
      rcases readLines_inv h with ⟨hgap, rfl⟩ | ⟨line, rest, more, hcuts, hlt, hmore, rfl⟩
      · exact ⟨List.forall_mem_nil _, (readGap_local hgap).1⟩
      · obtain ⟨hfits, hlast⟩ := ih rest.length (hn ▸ hlt) hmore rfl
        exact ⟨List.forall_mem_cons.mpr ⟨hcuts.fits, hfits⟩, hlast⟩

theorem readLines_write {lines : List Line} (hfits : ∀ l ∈ lines, l.Fits documentManner)
    {last : List Char} (hlast : readGap false last = some (last, [])) :
    ∃ lines', readLines (lines.flatMap Line.write ++ last) = some (lines', last) ∧
      lines'.map Line.gist = lines.map Line.gist := by
  induction lines with
  | nil => exact ⟨[], readLines_nil hlast, rfl⟩
  | cons line lines ih =>
      obtain ⟨hline, hfits⟩ := List.forall_mem_cons.mp hfits
      obtain ⟨lines', hread, hgists⟩ := ih hfits
      obtain ⟨line', hgist, hcuts⟩ := cutsLine_write hline (lines.flatMap Line.write ++ last)
      have hlt : (lines.flatMap Line.write ++ last).length <
          (line.write ++ (lines.flatMap Line.write ++ last)).length :=
        lt_length_append (by simp [Line.write]) _
      refine ⟨line' :: lines', ?_, congrArg₂ List.cons hgist hgists⟩
      rw [List.flatMap_cons, List.append_assoc]
      exact readLines_cons hcuts hlt hread

theorem head_of_readEntry {before s rest : List Char} {line : Line}
    (h : readEntry before s = some (line, rest)) :
    ∃ c w, s = c :: w ∧ (isLineSpace c = true ∨ opensName c = true) := by
  obtain ⟨⟨path, t⟩, hpath, -⟩ := Option.bind_eq_some_iff.mp h
  obtain ⟨⟨keys, u⟩, hkeys, -⟩ := Option.bind_eq_some_iff.mp hpath
  obtain ⟨key, -, ⟨⟨r, u, hspace, hname, -⟩, -⟩, -⟩ := readKeys_inv hkeys
  obtain ⟨hs, hblank, -⟩ := of_splitSpace hspace
  cases hbefore : key.inner.before with
  | nil =>
      obtain ⟨hr, ⟨c, w, hw, hc⟩, -⟩ := readName_local hname
      exact ⟨c, w ++ u, by rw [hs, hbefore, hr, hw]; rfl, .inr hc⟩
  | cons c b =>
      rw [hbefore] at hs hblank
      exact ⟨c, b ++ r, hs, .inl (hblank c List.mem_cons_self)⟩

/-- No line begins with a mark of the byte order. -/
theorem readLines_mark (s : List Char) : readLines ('\ufeff' :: s) = none := by
  have hgap : readGap false ('\ufeff' :: s) = some ([], '\ufeff' :: s) :=
    readGap_solid (by rintro c ⟨⟩; decide)
  refine Option.eq_none_iff_forall_not_mem.mpr fun ⟨lines, last⟩ h => ?_
  rcases readLines_inv h with ⟨hend, -⟩ | ⟨line, rest, more, ⟨gap, r, hcut, -, hline⟩, -⟩
  · rw [hgap] at hend
    cases hend
  · rw [hgap] at hcut
    cases hcut
    have hbracket : ('\ufeff' :: s).head? ≠ some '[' := fun h => nomatch h
    rw [readLine_entry hbracket] at hline
    obtain ⟨c, w, heq, hc⟩ := head_of_readEntry hline
    cases heq
    revert hc
    decide

theorem dropMark_of_readLines {s : List Char} {p : List Line × List Char}
    (h : readLines s = some p) : Document.dropMark s = s := by
  unfold Document.dropMark
  split
  · rw [readLines_mark] at h
    cases h
  · rfl

namespace Document

/-- A document that can be read again. -/
structure Good (d : Document) : Prop where
  sound : Entries.Sound documentManner 0 0 true d.entries
  distinct : (Entries.places d.entries).Nodup
  last : readGap false d.last = some (d.last, [])

theorem good_empty : empty.Good :=
  ⟨Entries.sound_nil, List.nodup_nil, by rw [empty, readGap]⟩

theorem good_of_read? {s : List Char} {d : Document} (h : read? s = some d) : d.Good := by
  obtain ⟨⟨lines, last⟩, hlines, h⟩ := Option.bind_eq_some_iff.mp h
  obtain ⟨entries, hentries, heq⟩ := Option.bind_eq_some_iff.mp h
  cases heq
  obtain ⟨hfits, hlast⟩ := readLines_fit hlines
  obtain ⟨n, current, hstanding⟩ := Entries.ofLines?_standing hentries hfits
  exact ⟨hstanding.sound, hstanding.distinct, hlast⟩

theorem Good.read?_write {d : Document} (h : d.Good) :
    ∃ d', read? d.write = some d' ∧ senses d'.contents = senses d.contents := by
  obtain ⟨lines', hread, hgists⟩ := readLines_write (Entries.lines_fit h.sound) h.last
  obtain ⟨es', hes', hsenses⟩ := Entries.rebuild h.sound h.distinct (readLines_fit hread).1 hgists
  refine ⟨⟨es', d.last⟩, ?_, hsenses⟩
  rw [read?, write, dropMark_of_readLines hread, hread]
  simp [hes']

theorem rereads_stringValue (s : String) : (stringValue s).Rereads (readValue maxDepth) := by
  have hread := Quoted.read?_write s.toList (q := []) ⟨nofun, nofun⟩
  rw [List.append_nil] at hread
  have hvalue : Value.Rereads (readValue maxDepth) _ := rereads_of_string hread
  simpa [writtenBefore, stringValue] using hvalue

theorem itemFits_string {k : Key} (hk : IsGap k.outer.before) (s : String) :
    Entries.ItemFits documentManner k 1 1 true (.value ⟨[' '], []⟩ (stringValue s)) :=
  ⟨rfl, hk, by decide, ⟨by simp [Blank, isLineSpace], endsLine_nil⟩, rereads_stringValue s⟩

theorem isGap_of_itemFits {m : Manner} {k : Key} {own depth : Nat} {owned : Bool} {i : Item}
    (h : Entries.ItemFits m k own depth owned i) : IsGap k.outer.before := by
  cases i with
  | value => exact h.2.1
  | table kind es =>
      cases kind with
      | headed => exact h.1.isGap
      | implied => exact h.1.isGap
      | dotted => exact h.2.1.isGap
  | tables => exact h.1.isGap

theorem Good.setString {d : Document} (h : d.Good) {name : String} (hne : name.toList ≠ [])
    (hname : ∀ c ∈ name.toList, isBareChar c = true) (s : String) : (d.setString name s).Good := by
  have hplaces : (Entries.places (d.setString name s).entries).Sublist (Entries.places d.entries) := by
    unfold Document.setString Entries.set
    cases hfind : Entries.find? name d.entries with
    | some old =>
        obtain ⟨before, after, hold, hnew⟩ :=
          Entries.places_replace hfind (.value ⟨[' '], []⟩ (stringValue s))
        simp [hold, hnew, Entries.itemPlaces]
    | none => simp [Entries.places, Entries.itemPlaces]
  refine ⟨?_, h.distinct.sublist hplaces, h.last⟩
  unfold Document.setString Entries.set
  cases hfind : Entries.find? name d.entries with
  | some old => exact h.sound.replace hfind fun k hold => itemFits_string (isGap_of_itemFits hold) s
  | none => exact h.sound.concat hfind (good_bare hne hname) (itemFits_string isGap_nil s)

theorem find?_setString (name s : String) (d : Document) (other : String) :
    Entries.find? other (d.setString name s).entries =
      if name = other then some (.value ⟨[' '], []⟩ (stringValue s))
      else Entries.find? other d.entries := by
  unfold Document.setString Entries.set
  cases hfind : Entries.find? name d.entries <;>
    grind [Entries.find?_replace, Entries.find?_append, Entries.find?_cons, Entries.find?_nil]

theorem senses_contents (es : Entries) (name : String) :
    senses (Entries.contents es) name = (Entries.find? name es).map fun i => (Entries.itemContent i).sense := by
  induction es with
  | nil => rfl
  | cons e es ih =>
      obtain ⟨k, i⟩ := e
      rw [Entries.contents, senses, Entries.find?_cons, ih]
      split <;> rfl

/-- The text is under the key, and under any other name there is what was there. -/
theorem senses_setString (name s : String) (d : Document) (other : String) :
    senses (d.setString name s).contents other =
      if name = other then some (.plain (.string s)) else senses d.contents other := by
  rw [contents, contents, senses_contents, find?_setString, senses_contents]
  split <;> rfl

theorem string?_eq_some_iff {d : Document} {name s : String} :
    d.string? name = some s ↔ senses d.contents name = some (.plain (.string s)) := by
  rw [contents, senses_contents, string?]
  cases hfind : Entries.find? name d.entries with
  | none => simp
  | some i =>
      cases i with
      | value space v =>
          obtain ⟨content, written⟩ := v
          cases content <;> simp [Entries.itemContent, Content.sense]
      | table => simp [Entries.itemContent, Content.sense]
      | tables => simp [Entries.itemContent, Content.sense]

end Document

end ServerLink.Toml
