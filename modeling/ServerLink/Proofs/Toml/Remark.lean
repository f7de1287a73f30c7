import ServerLink.Proofs.Toml.Sequence

namespace ServerLink.Toml

/-- Comments that are the same ones, and in the same order if that is asked for. -/
def Alike (ordered : Bool) (a b : List (List Char)) : Prop :=
  if ordered then a = b else a.Perm b

theorem alike_of_eq {ordered : Bool} {a b : List (List Char)} (h : a = b) : Alike ordered a b := by
  subst h
  cases ordered
  · exact List.Perm.refl a
  · exact rfl

theorem Alike.trans {ordered : Bool} {a b c : List (List Char)} (h : Alike ordered a b)
    (h' : Alike ordered b c) : Alike ordered a c := by
  cases ordered
  · exact List.Perm.trans h h'
  · exact Eq.trans h h'

theorem Alike.append {ordered : Bool} {a b c d : List (List Char)} (h : Alike ordered a b)
    (h' : Alike ordered c d) : Alike ordered (a ++ c) (b ++ d) := by
  cases ordered
  · exact List.Perm.append h h'
  · exact congrArg₂ _ h h'

theorem Alike.append_left {ordered : Bool} {b c : List (List Char)} (h : Alike ordered b c)
    (a : List (List Char)) : Alike ordered (a ++ b) (a ++ c) :=
  (alike_of_eq rfl).append h

theorem Entries.alike_ofLines? {ordered : Bool} {m : Manner} {lines : List Line} {es : Entries}
    (h : Entries.ofLines? lines = some es) (hlines : ∀ l ∈ lines, l.Fits m)
    (horder : ordered = true → InOrder [[]] [] [] (lines.map Line.gist)) :
    Alike ordered (lines.flatMap Line.comments) ((Entries.lines es).flatMap Line.comments) := by
  cases ordered with
  | false => exact (Entries.comments_ofLines? h hlines).symm
  | true =>
      have hmarks := Entries.marks_ofLines? h hlines (horder rfl)
      have hcomments (lines : List Line) :
          lines.flatMap Line.comments = (lines.map Line.mark).flatMap (·.2) := by
        rw [List.flatMap_map]
        rfl
      exact (hcomments lines).trans (hmarks ▸ (hcomments _).symm)

/-- Reads a value as `readValue` does, if the entries of each table in braces meet a test. -/
def readTested (test : List Line → Bool) : Nat → ValueReader
  | 0, s => readValue 0 s
  | depth + 1, s =>
      match s with
      | '[' :: r => do
          let ((contents, written), rest) ← readElements (readTested test depth) r
          return (⟨.array contents, '[' :: written⟩, ← Shorter.of? _ rest)
      | '\x7b' :: r => do
          let ((lines, last), rest) ← readEntries (readTested test depth) r
          if test lines then
            let entries ← Entries.ofLines? lines
            let written := '\x7b' :: Entries.writeInline entries ++ last ++ ['\x7d']
            return (⟨.table (Entries.contents entries), written⟩, ← Shorter.of? _ rest)
          else none
      | s => readValue 0 s

/-- Whether what entries say is in order. -/
def areInOrder (lines : List Line) : Bool :=
  decide (InOrder [[]] [] [] (lines.map Line.gist))

def readOrdered : Nat → ValueReader :=
  readTested areInOrder

/-- Outside brackets and braces the depth plays no part. -/
theorem readValue_plain {s : List Char} (harray : ∀ r, s ≠ '[' :: r) (htable : ∀ r, s ≠ '\x7b' :: r)
    (depth : Nat) : readValue depth s = readValue 0 s := by
  cases s with
  | nil => simp [readValue]
  | cons c s =>
      have hbracket : c ≠ '[' := fun hc => harray s (hc ▸ rfl)
      have hbrace : c ≠ '\x7b' := fun hc => htable s (hc ▸ rfl)
      by_cases hdouble : c = '"'
      · subst hdouble
        simp [readValue]
      by_cases hsingle : c = '\''
      · subst hsingle
        simp [readValue]
      have hword (depth : Nat) : readValue depth (c :: s) =
          (Scalar.read? (c :: s)).bind fun p => (Shorter.of? (c :: s) p.2).bind fun t => some (p.1, t) := by
        unfold readValue
        split <;> simp_all
      rw [hword, hword]

section Mono

variable {read read' : ValueReader}

theorem readElements_mono (hread : ∀ {s p}, read s = some p → read' s = some p) {s : List Char}
    {contents : List Content} {written q : List Char}
    (h : readElements read s = some ((contents, written), q)) :
    readElements read' s = some ((contents, written), q) := by
  induction hn : s.length using Nat.strongRecOn generalizing s contents written with
  | ind n ih =>
      obtain ⟨gap, r, hgap, -, ⟨rfl, rfl, rfl⟩ | ⟨v, t, gap', r', hr, hv, hgap', hrest⟩⟩ := readElements_inv h
      · exact readElements_close hgap
      · obtain ⟨rfl, rfl, rfl⟩ | ⟨u, more, written', rfl, hlt, hmore, rfl, rfl⟩ := hrest
        · exact readElements_one hgap hr (hread hv) hgap'
        · exact readElements_more hgap hr (hread hv) hgap' hlt (ih u.length (hn ▸ hlt) hmore rfl)

theorem CutsEntry.mono (hread : ∀ {s p}, read s = some p → read' s = some p) {s rest : List Char}
    {line : Line} (h : CutsEntry read s line rest) : CutsEntry read' s line rest := by
  obtain ⟨gap, r, path, t, u, v, t', after, hgap, hr, hpath, ht, hv, hafter, rfl⟩ := h
  exact ⟨gap, r, path, t, u, v, t', after, hgap, hr, hpath, ht, hread hv, hafter, rfl⟩

theorem readEntries_mono (hread : ∀ {s p}, read s = some p → read' s = some p) {s last q : List Char}
    {lines : List Line} (h : readEntries read s = some ((lines, last), q)) :
    readEntries read' s = some ((lines, last), q) := by
  induction hn : s.length using Nat.strongRecOn generalizing s lines last with
  | ind n ih =>
      obtain ⟨hgap, rfl⟩ | ⟨line, ⟨hcuts, rfl, rfl⟩ | ⟨u, more, last', hcuts, hlt, hmore, rfl, rfl⟩⟩ :=
        readEntries_inv h
      · exact readEntries_close hgap
      · exact readEntries_one (hcuts.mono hread)
      · exact readEntries_more (hcuts.mono hread) hlt (ih u.length (hn ▸ hlt) hmore rfl)

end Mono

theorem readValue_of_tested {test : List Line → Bool} {depth : Nat} {s : List Char} {p : Value × Shorter s}
    (h : readTested test depth s = some p) : readValue depth s = some p := by
  induction depth generalizing s with
  | zero => exact h
  | succ depth ih =>
      unfold readTested at h
      split at h
      · obtain ⟨⟨⟨contents, written⟩, rest⟩, hread, h⟩ := Option.bind_eq_some_iff.mp h
        simp only [readValue, Option.bind_eq_bind, readElements_mono ih hread]
        exact h
      · obtain ⟨⟨⟨lines, last⟩, rest⟩, hread, h⟩ := Option.bind_eq_some_iff.mp h
        dsimp only at h
        split at h
        · simp only [readValue, Option.bind_eq_bind, readEntries_mono ih hread]
          exact h
        · cases h
      · rename_i harray htable
        rwa [readValue_plain harray htable]

theorem readTested_all (depth : Nat) : readTested (fun _ => true) depth = readValue depth := by
  induction depth with
  | zero => rfl
  | succ depth ih =>
      funext s
      unfold readTested
      split
      · simp [readValue, ih]
      · simp [readValue, ih]
      · rename_i harray htable
        exact (readValue_plain harray htable _).symm

/-- What is written of a value ends no comment behind it and opens none. -/
def Value.Parted (v : Value) : Prop :=
  ∀ q, Follows q → comments (v.written ++ q) = comments v.written ++ comments q

/-- A reader whose values have the comments of what they were read from. -/
def ValueReader.Keeps (ordered : Bool) (read : ValueReader) : Prop :=
  ∀ {s v t}, read s = some (v, t) →
    v.Parted ∧ Alike ordered (comments s) (comments v.written ++ comments t.1)

theorem follows_nil : Follows [] :=
  follows_of nofun nofun

/-- It is enough to know the comments of what is written in front of anything that may follow. -/
theorem Value.parted_of {ordered : Bool} {v : Value} {s r : List Char} (cs : List (List Char))
    (hwritten : ∀ q, Follows q → comments (v.written ++ q) = cs ++ comments q)
    (halike : Alike ordered (comments s) (cs ++ comments r)) :
    v.Parted ∧ Alike ordered (comments s) (comments v.written ++ comments r) := by
  have hcs : comments v.written = cs := by simpa using hwritten [] follows_nil
  rw [Value.Parted, hcs]
  exact ⟨hwritten, halike⟩

theorem keeps_word {ordered : Bool} {s r : List Char} {v : Value} (h : Scalar.read? s = some (v, r)) :
    v.Parted ∧ Alike ordered (comments s) (comments v.written ++ comments r) := by
  have hplain := isPlain_of_word h
  obtain ⟨hs, -, -⟩ := Scalar.read?_local h
  exact Value.parted_of [] (fun q _ => comments_append hplain q)
    (alike_of_eq (by rw [hs, comments_append hplain, List.nil_append]))

theorem keeps_string {ordered : Bool} {s text r : List Char} (h : Quoted.read? s = some (text, r)) :
    Value.Parted ⟨.string (String.ofList text), writtenBefore s r⟩ ∧
      Alike ordered (comments s) (comments (writtenBefore s r) ++ comments r) := by
  obtain ⟨w, rfl, -, hagain⟩ := Quoted.read?_local h
  rw [writtenBefore_append]
  exact Value.parted_of (v := ⟨.string (String.ofList text), w⟩) []
    (fun q hq => comments_string (hagain q hq.unquoted)) (alike_of_eq (comments_string h))

section

variable {ordered : Bool} {read : ValueReader}

theorem readElements_keeps (hkeeps : read.Keeps ordered) {s : List Char} {contents : List Content}
    {written q : List Char} (h : readElements read s = some ((contents, written), q)) :
    ∃ cs, (∀ q', comments (written ++ q') = cs ++ comments q') ∧
      Alike ordered (comments s) (cs ++ comments q) := by
  induction hn : s.length using Nat.strongRecOn generalizing s contents written with
  | ind n ih =>
      obtain ⟨gap, r, hgap, hr, hcases⟩ := readElements_inv h
      have hg : IsGap gap := isGap_of_readGap hgap hr
      have hs := comments_of_readGap hgap
      obtain ⟨rfl, rfl, rfl⟩ | ⟨v, t, gap', r', -, hv, hgap', hrest⟩ := hcases
      · have hclose (u : List Char) : comments (']' :: u) = comments u := comments_plain rfl u
        exact ⟨comments gap, fun q' => by simp [hg.comments_append, hclose], alike_of_eq (by rw [hs, hclose])⟩
      · obtain ⟨hparted, halike⟩ := hkeeps hv
        rw [comments_of_readGap hgap'] at halike
        have hnext {c : Char} (hc : c = ',' ∨ c = ']') {u : List Char} (hr' : r' = c :: u) (u' : List Char) :
            comments (gap ++ (v.written ++ (gap' ++ c :: u'))) =
                comments gap ++ (comments v.written ++ (comments gap' ++ comments u')) ∧
              comments r' = comments u := by
          have hplain (u : List Char) : comments (c :: u) = comments u :=
            comments_plain (by rcases hc with rfl | rfl <;> rfl) u
          have hg' : IsGap gap' := isGap_of_readGap hgap' (hr' ▸ List.cons_ne_nil c u)
          rw [hg.comments_append, hparted _ (hg'.follows (hc.imp_right .inl) u'), hg'.comments_append,
            hplain, hr', hplain]
          exact ⟨rfl, rfl⟩
        obtain ⟨rfl, rfl, rfl⟩ | ⟨u, more, written', rfl, hlt, hmore, rfl, rfl⟩ := hrest
        · refine ⟨comments gap ++ (comments v.written ++ comments gap'), fun q' => ?_, ?_⟩
          · simpa using (hnext (.inr rfl) rfl q').1
          · rw [(hnext (.inr rfl) rfl []).2] at halike
            rw [hs]
            simpa using halike.append_left (comments gap)
        · obtain ⟨cs, hwritten, hrest⟩ := ih u.length (hn ▸ hlt) hmore rfl
          refine ⟨comments gap ++ (comments v.written ++ (comments gap' ++ cs)), fun q' => ?_, ?_⟩
          · have hall := (hnext (.inl rfl) rfl (written' ++ q')).1
            rw [hwritten] at hall
            simpa using hall
          · rw [(hnext (.inl rfl) rfl []).2] at halike
            have hall := halike.trans ((hrest.append_left (comments gap')).append_left (comments v.written))
            rw [hs]
            simpa using hall.append_left (comments gap)

/-- The values of a line do not run into what stands behind them. -/
def Line.Parted : Line → Prop
  | .entry _ _ v => v.Parted
  | .header .. => True

theorem comments_lead {before s : List Char} {path : List Key} {t : Shorter s} (hbefore : IsGap before)
    (h : readPath before s = some (path, t)) : comments (lead path) = comments before := by
  have hgood := goodPath_of_readPath h
  obtain ⟨k, ks, rfl⟩ := List.exists_cons_of_ne_nil hgood.ne_nil
  obtain ⟨blank, hblank, hlead⟩ := hgood.keys.last
  rw [lead, hlead, hbefore.comments_append, hblank.comments, List.append_nil]

/-- The comments of an entry are those of the text that it was read from, up to its value. -/
theorem comments_entry {before s u r : List Char} {path : List Key} {t : Shorter s} (hbefore : IsGap before)
    (hpath : readPath before s = some (path, t)) (ht : t.1 = '=' :: u) {v : Value} {after : List Char}
    (halike : Alike ordered (comments (splitSpace u).2) (comments v.written ++ (comments after ++ comments r))) :
    Alike ordered (comments before ++ comments s)
      ((Line.entry path ⟨(splitSpace u).1, after⟩ v).comments ++ comments r) := by
  obtain ⟨hu, hblank, -⟩ := of_splitSpace (rfl : splitSpace u = _)
  have hs : comments s = comments (splitSpace u).2 := by
    rw [comments_of_readPath hpath ht (unquoted_of_endsPath (.inl rfl)), comments_plain rfl]
    exact (congrArg comments hu).trans (hblank.comments_append _)
  rw [hs, Line.comments, comments_lead hbefore hpath]
  simpa using halike.append_left (comments before)

theorem CutsEntry.keeps (hkeeps : read.Keeps ordered) {s rest : List Char} {line : Line}
    (h : CutsEntry read s line rest) :
    line.Parted ∧ Alike ordered (comments s) (line.comments ++ comments rest) := by
  obtain ⟨gap, r, path, t, u, v, t', after, hgap, -, hpath, ht, hv, hafter, rfl⟩ := h
  obtain ⟨hparted, halike⟩ := hkeeps hv
  rw [comments_of_readGap hafter] at halike
  have hr : r ≠ [] := List.ne_nil_of_length_pos (Nat.zero_lt_of_lt t.2)
  rw [comments_of_readGap hgap]
  exact ⟨hparted, comments_entry (isGap_of_readGap hgap hr) hpath ht halike⟩

theorem readEntries_keeps (hkeeps : read.Keeps ordered) {s last q : List Char} {lines : List Line}
    (h : readEntries read s = some ((lines, last), q)) :
    (∀ l ∈ lines, l.Parted) ∧
      Alike ordered (comments s) (lines.flatMap Line.comments ++ (comments last ++ comments q)) := by
  induction hn : s.length using Nat.strongRecOn generalizing s lines last with
  | ind n ih =>
      have hbrace (u : List Char) : comments ('\x7d' :: u) = comments u := comments_plain rfl u
      have hcomma (u : List Char) : comments (',' :: u) = comments u := comments_plain rfl u
      obtain ⟨hgap, rfl⟩ | ⟨line, ⟨hcuts, rfl, rfl⟩ | ⟨u, more, last', hcuts, hlt, hmore, rfl, rfl⟩⟩ :=
        readEntries_inv h
      · refine ⟨List.forall_mem_nil _, alike_of_eq ?_⟩
        rw [comments_of_readGap hgap, hbrace]
        rfl
      · obtain ⟨hparted, halike⟩ := hcuts.keeps hkeeps
        rw [hbrace] at halike
        exact ⟨List.forall_mem_singleton.mpr hparted, by simpa using halike⟩
      · obtain ⟨hparted, halike⟩ := hcuts.keeps hkeeps
        obtain ⟨hmore, hrest⟩ := ih u.length (hn ▸ hlt) hmore rfl
        rw [hcomma] at halike
        have hlast : comments (if more.isEmpty then ',' :: last' else last') = comments last' := by
          split
          · exact hcomma last'
          · rfl
        refine ⟨List.forall_mem_cons.mpr ⟨hparted, hmore⟩, ?_⟩
        rw [hlast]
        simpa using halike.trans (hrest.append_left line.comments)

end

/-- What is asked of lines whose comments are kept. -/
def Manner.parted (m : Manner) : Manner where
  value space v := m.value space v ∧ v.Parted
  header := m.header

theorem fits_parted {m : Manner} {line : Line} : line.Fits m.parted ↔ line.Fits m ∧ line.Parted := by
  cases line with
  | entry => exact and_assoc.symm
  | header => exact (and_iff_left trivial).symm

theorem comments_body {read : ValueReader} {line : Line} (h : line.Fits (inlineManner read).parted) {c : Char}
    (hc : c = ',' ∨ c = '\x7d') (u : List Char) :
    comments (line.body ++ c :: u) = line.comments ++ comments u := by
  cases line with
  | header => exact h.2.elim
  | entry path space v =>
      obtain ⟨⟨hne, hlength, hkeys⟩, ⟨⟨hbefore, hafter⟩, -⟩, hparted⟩ := h
      have hbody : (Line.entry path space v).body ++ c :: u =
          writePath path ++ '=' :: (space.before ++ (v.written ++ (space.after ++ c :: u))) := by
        simp [Line.body]
      have hplain : comments (c :: u) = comments u :=
        comments_plain (by rcases hc with rfl | rfl <;> rfl) u
      rw [hbody, comments_writePath hne hlength hkeys (.inl rfl), comments_plain rfl,
        hbefore.comments_append, hparted _ (hafter.follows (hc.imp_right .inr) u), hafter.comments_append,
        hplain, Line.comments]
      simp

theorem comments_bodies {read : ValueReader} {lines : List Line} (hne : lines ≠ [])
    (hfits : ∀ l ∈ lines, l.Fits (inlineManner read).parted) {last : List Char}
    (hlast : last = [] ∨ ∃ gap, last = ',' :: gap ∧ IsGap gap) (q : List Char) :
    comments (Text.joinWith ',' (lines.map Line.body) ++ (last ++ '\x7d' :: q)) =
      lines.flatMap Line.comments ++ (comments last ++ comments q) := by
  induction lines with
  | nil => exact absurd rfl hne
  | cons line lines ih =>
      obtain ⟨hline, hrest⟩ := List.forall_mem_cons.mp hfits
      cases lines with
      | nil =>
          rcases hlast with rfl | ⟨gap, rfl, hgap⟩
          · simpa [Text.joinWith] using comments_body hline (.inr rfl) q
          · have hcomma := comments_body hline (.inl rfl) (gap ++ '\x7d' :: q)
            have hbrace : comments ('\x7d' :: q) = comments q := comments_plain rfl q
            have hgap' : comments (',' :: gap) = comments gap := comments_plain rfl gap
            rw [hgap.comments_append, hbrace] at hcomma
            simpa [Text.joinWith, hgap'] using hcomma
      | cons next lines =>
          have hcomma := comments_body hline (.inl rfl)
            (Text.joinWith ',' ((next :: lines).map Line.body) ++ (last ++ '\x7d' :: q))
          rw [ih (List.cons_ne_nil _ _) hrest] at hcomma
          simpa [Text.joinWith] using hcomma

/-- The comments of a table in braces that is written are those of its lines, and those behind them. -/
theorem comments_writeInline {read : ValueReader} {lines : List Line} {es : Entries}
    (hes : Entries.ofLines? lines = some es) (hfits : ∀ l ∈ lines, l.Fits (inlineManner read).parted)
    {last : List Char} (hends : EndsEntries lines last) (q : List Char) :
    comments (Entries.writeInline es ++ (last ++ '\x7d' :: q)) =
      (Entries.lines es).flatMap Line.comments ++ (comments last ++ comments q) := by
  obtain ⟨-, hlines, hempty⟩ := lines_of_entries hes fun l hl => (fits_parted.mp (hfits l hl)).1
  rw [hlines]
  by_cases hnil : lines = []
  · subst hnil
    cases hes
    have hgap : IsGap last := hends
    have hclose : comments ('\x7d' :: q) = comments q := comments_plain rfl q
    simp [Entries.writeInline, Entries.ownLines, Text.joinWith, hgap.comments_append, hclose]
  · obtain ⟨n, current, hstanding⟩ := Entries.ofLines?_standing hes hfits
    rw [EndsEntries, if_neg hnil] at hends
    exact comments_bodies (fun h => hnil (hempty.mp h)) (hlines ▸ Entries.lines_fit hstanding.sound) hends q

theorem keeps_table {ordered : Bool} {read : ValueReader} {depth : Nat} (hkeeps : read.Keeps ordered)
    (hread : ∀ {s p}, read s = some p → readValue depth s = some p) {s last q : List Char}
    {lines : List Line} {es : Entries} (h : readEntries read s = some ((lines, last), q))
    (hes : Entries.ofLines? lines = some es)
    (horder : ordered = true → InOrder [[]] [] [] (lines.map Line.gist)) :
    let v : Value := ⟨.table (Entries.contents es), '\x7b' :: Entries.writeInline es ++ last ++ ['\x7d']⟩
    v.Parted ∧ Alike ordered (comments ('\x7b' :: s)) (comments v.written ++ comments q) := by
  obtain ⟨hparted, halike⟩ := readEntries_keeps hkeeps h
  obtain ⟨hinline, hends⟩ := readEntries_fit (steady_readValue depth) (readEntries_mono hread h)
  have hfits : ∀ l ∈ lines, l.Fits (inlineManner (readValue depth)).parted :=
    fun l hl => fits_parted.mpr ⟨hinline l hl, hparted l hl⟩
  have hopen (u : List Char) : comments ('\x7b' :: u) = comments u := comments_plain rfl u
  refine Value.parted_of ((Entries.lines es).flatMap Line.comments ++ comments last) (fun q _ => ?_) ?_
  · have htext : '\x7b' :: Entries.writeInline es ++ last ++ ['\x7d'] ++ q =
        '\x7b' :: (Entries.writeInline es ++ (last ++ '\x7d' :: q)) := by simp
    rw [htext, hopen, comments_writeInline hes hfits hends, List.append_assoc]
  · rw [hopen, List.append_assoc]
    exact halike.trans ((Entries.alike_ofLines? hes hfits horder).append (alike_of_eq rfl))

/-- What is read with a test has all comments, in their order if the test asks for entries in order. -/
theorem keeps_readTested {ordered : Bool} {test : List Line → Bool}
    (horder : ∀ {lines}, test lines = true → ordered = true → InOrder [[]] [] [] (lines.map Line.gist))
    (depth : Nat) : ValueReader.Keeps ordered (readTested test depth) := by
  have hplain {s : List Char} {v : Value} {t : Shorter s} (h : readValue 0 s = some (v, t)) :
      v.Parted ∧ Alike ordered (comments s) (comments v.written ++ comments t.1) := by
    unfold readValue at h
    split at h
    iterate 2
      obtain ⟨⟨text, rest⟩, hread, h⟩ := Option.bind_eq_some_iff.mp h
      obtain ⟨t, ht, heq⟩ := Option.bind_eq_some_iff.mp h
      cases heq
      rw [Shorter.eq_of_of? ht]
      exact keeps_string hread
    · cases h
    · cases h
    · obtain ⟨⟨v, rest⟩, hread, h⟩ := Option.bind_eq_some_iff.mp h
      obtain ⟨t, ht, heq⟩ := Option.bind_eq_some_iff.mp h
      cases heq
      rw [Shorter.eq_of_of? ht]
      exact keeps_word hread
  induction depth with
  | zero => exact hplain
  | succ depth ih =>
      intro s v t h
      unfold readTested at h
      split at h
      · obtain ⟨⟨⟨contents, written⟩, rest⟩, hread, h⟩ := Option.bind_eq_some_iff.mp h
        obtain ⟨t, ht, heq⟩ := Option.bind_eq_some_iff.mp h
        cases heq
        rw [Shorter.eq_of_of? ht]
        obtain ⟨cs, hwritten, halike⟩ := readElements_keeps ih hread
        have hopen (u : List Char) : comments ('[' :: u) = comments u := comments_plain rfl u
        exact Value.parted_of (v := ⟨.array contents, '[' :: written⟩) cs
          (fun q _ => (hopen _).trans (hwritten q)) (by rwa [hopen])
      · obtain ⟨⟨⟨lines, last⟩, rest⟩, hread, h⟩ := Option.bind_eq_some_iff.mp h
        dsimp only at h
        split at h
        · rename_i htest
          obtain ⟨es, hes, h⟩ := Option.bind_eq_some_iff.mp h
          obtain ⟨t, ht, heq⟩ := Option.bind_eq_some_iff.mp h
          cases heq
          rw [Shorter.eq_of_of? ht]
          exact keeps_table ih readValue_of_tested hread hes (horder htest)
        · cases h
      · exact hplain h

/-- Reading a value and writing it again keeps all its comments, and their order where tables in braces are in
order. -/
theorem readValue_keeps {ordered : Bool} {depth : Nat} {s : List Char} {v : Value} {t : Shorter s}
    (h : readValue depth s = some (v, t)) (horder : ordered = true → (readOrdered depth s).isSome) :
    v.Parted ∧ Alike ordered (comments s) (comments v.written ++ comments t.1) := by
  cases ordered with
  | false =>
      have hall : ValueReader.Keeps false (readTested (fun _ => true) depth) :=
        keeps_readTested (fun _ h => by cases h) depth
      exact hall (readTested_all depth ▸ h)
  | true =>
      obtain ⟨p, hp⟩ := Option.isSome_iff_exists.mp (horder rfl)
      obtain rfl : p = (v, t) := Option.some.inj ((readValue_of_tested hp).symm.trans h)
      exact keeps_readTested (fun htest _ => of_decide_eq_true htest) depth hp

end ServerLink.Toml
