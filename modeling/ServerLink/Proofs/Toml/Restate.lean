import ServerLink.Proofs.Toml.Document
import ServerLink.Proofs.Toml.Remark

/-!
Documents in which a text is put under a key of the outermost table, with their comments. What is lost are the
comments in the old value and behind it. All others are kept, and all keys and tables, and if the entries of a
document are in order then nothing changes its place.
-/

namespace ServerLink.Toml

/-- The text of the value of an entry. -/
def valueText? (s : List Char) : Option (List Char) :=
  (readKeys s).bind fun p =>
    match p.2.1 with
    | '=' :: r => some (splitSpace r).2
    | _ => none

def valueInOrder (s : List Char) : Bool :=
  (valueText? s).all fun r => (readOrdered maxDepth r).isSome

/-- Whether the tables in braces in the values of a text are in order. -/
def valuesInOrder (s : List Char) : Bool :=
  match readGap false s with
  | none => true
  | some (gap, r) =>
      valueInOrder r &&
        match (readLine gap r).bind fun p => Shorter.of? s p.2 with
        | none => true
        | some rest => valuesInOrder rest.1
termination_by s.length
decreasing_by exact rest.2

/-- A text whose entries are in order, behind its headers and in braces. -/
def Tidy (text : List Char) : Prop :=
  (readLines (Document.dropMark text)).all (areInOrder ·.1) = true ∧
    valuesInOrder (Document.dropMark text) = true

instance (text : List Char) : Decidable (Tidy text) :=
  inferInstanceAs (Decidable (_ ∧ _))

/-- What the lines of a text say. -/
def gists? (text : List Char) : Option (List Gist) :=
  (readLines (Document.dropMark text)).map fun p => p.1.map Line.gist

theorem comments_of_readBrackets {isArray : Bool} {s r : List Char} (h : readBrackets isArray s = some r) :
    Quoted.Unquoted s ∧ comments s = comments r := by
  have hclose (u : List Char) : comments (']' :: u) = comments u := comments_plain rfl u
  unfold readBrackets at h
  split at h
  · refine ⟨unquoted_of_endsPath (.inr rfl), ?_⟩
    split at h
    · split at h
      · cases h
        rw [hclose, hclose]
      · cases h
    · cases h
      exact hclose _
  · cases h

theorem readHeader_keeps {isArray : Bool} {before s rest : List Char} {line : Line}
    (h : readHeader isArray before s = some (line, rest)) :
    line.Parted ∧ comments before ++ comments s = line.comments ++ comments rest := by
  obtain ⟨⟨path, t⟩, hpath, h⟩ := Option.bind_eq_some_iff.mp h
  obtain ⟨r, hbrackets, h⟩ := Option.bind_eq_some_iff.mp h
  obtain ⟨⟨after, r'⟩, hafter, h⟩ := Option.bind_eq_some_iff.mp h
  cases h
  obtain ⟨hunquoted, hr⟩ := comments_of_readBrackets hbrackets
  refine ⟨trivial, ?_⟩
  rw [comments_of_readPath hpath rfl hunquoted, hr, comments_of_readLineEnd hafter, Line.comments,
    List.append_assoc]

theorem valueText?_of_readPath {before s u : List Char} {path : List Key} {t : Shorter s}
    (h : readPath before s = some (path, t)) (ht : t.1 = '=' :: u) :
    valueText? s = some (splitSpace u).2 := by
  obtain ⟨⟨keys, t'⟩, hkeys, h⟩ := Option.bind_eq_some_iff.mp h
  dsimp only at h
  split at h
  · cases h
  · cases h
    simp [valueText?, hkeys, ht]

theorem readEntry_keeps {ordered : Bool} {before s rest : List Char} {line : Line} (hbefore : IsGap before)
    (h : readEntry before s = some (line, rest)) (horder : ordered = true → valueInOrder s = true) :
    line.Parted ∧ Alike ordered (comments before ++ comments s) (line.comments ++ comments rest) := by
  obtain ⟨⟨path, t⟩, hpath, h⟩ := Option.bind_eq_some_iff.mp h
  dsimp only at h
  split at h
  · rename_i u ht
    obtain ⟨⟨v, t'⟩, hread, h⟩ := Option.bind_eq_some_iff.mp h
    obtain ⟨⟨after, r⟩, hafter, h⟩ := Option.bind_eq_some_iff.mp h
    cases h
    have hvalue (hordered : ordered = true) : (readOrdered maxDepth (splitSpace u).2).isSome := by
      simpa [valueInOrder, valueText?_of_readPath hpath ht] using horder hordered
    obtain ⟨hparted, halike⟩ := readValue_keeps hread hvalue
    rw [comments_of_readLineEnd hafter] at halike
    exact ⟨hparted, comments_entry hbefore hpath ht halike⟩
  · cases h

/-- A line keeps the comments of the text that it was cut off from. -/
theorem readLine_keeps {ordered : Bool} {gap s rest : List Char} {line : Line} (hgap : IsGap gap)
    (h : readLine gap s = some (line, rest)) (horder : ordered = true → valueInOrder s = true) :
    line.Parted ∧ Alike ordered (comments gap ++ comments s) (line.comments ++ comments rest) := by
  have hopen (u : List Char) : comments ('[' :: u) = comments u := comments_plain rfl u
  unfold readLine at h
  split at h
  · obtain ⟨hparted, heq⟩ := readHeader_keeps h
    exact ⟨hparted, alike_of_eq (by rw [hopen, hopen, heq])⟩
  · obtain ⟨hparted, heq⟩ := readHeader_keeps h
    exact ⟨hparted, alike_of_eq (by rw [hopen, heq])⟩
  · exact readEntry_keeps hgap h horder

theorem readLines_keeps {ordered : Bool} {s last : List Char} {lines : List Line}
    (h : readLines s = some (lines, last)) (horder : ordered = true → valuesInOrder s = true) :
    (∀ l ∈ lines, l.Parted) ∧
      Alike ordered (comments s) (lines.flatMap Line.comments ++ comments last) := by
  induction hn : s.length using Nat.strongRecOn generalizing s lines with
  | ind n ih =>
      obtain ⟨hgap, rfl⟩ | ⟨line, rest, more, ⟨gap, r, hgap, hr, hline⟩, hlt, hmore, rfl⟩ := readLines_inv h
      · refine ⟨List.forall_mem_nil _, alike_of_eq ?_⟩
        rw [comments_of_readGap hgap, comments_nil, List.append_nil]
        rfl
      · have hvalues (hordered : ordered = true) : valueInOrder r = true ∧ valuesInOrder rest = true := by
          have hs := horder hordered
          rw [valuesInOrder, hgap] at hs
          simpa [hline, Shorter.of?_of_lt hlt] using hs
        obtain ⟨hparted, halike⟩ :=
          readLine_keeps (isGap_of_readGap hgap hr) hline fun hordered => (hvalues hordered).1
        obtain ⟨hrest, hmore⟩ := ih rest.length (hn ▸ hlt) hmore (fun hordered => (hvalues hordered).2) rfl
        refine ⟨List.forall_mem_cons.mpr ⟨hparted, hrest⟩, ?_⟩
        rw [comments_of_readGap hgap]
        simpa using halike.trans (hmore.append_left line.comments)

theorem comments_write {line : Line} (h : line.Fits documentManner) (hparted : line.Parted)
    (rest : List Char) : comments (line.write ++ rest) = line.comments ++ comments rest := by
  cases line with
  | header isArray path space =>
      obtain ⟨⟨hne, hlength, hkeys⟩, hbefore, hafter⟩ := h
      have hopen (u : List Char) : comments ('[' :: u) = comments u := comments_plain rfl u
      have hclose (u : List Char) : comments (']' :: u) = comments u := comments_plain rfl u
      have hlead : comments (lead path) = [] := by
        obtain ⟨k, ks, rfl⟩ := List.exists_cons_of_ne_nil hne
        exact Blank.comments hkeys.last
      have hpath (u : List Char) : comments (writePath path ++ ']' :: u) = comments u := by
        rw [comments_writePath hne hlength (hkeys.mono fun _ hb => hb.isGap) (.inr rfl), hlead, hclose]
        rfl
      have htext : comments ((Line.header isArray path space).write ++ rest) =
          comments (space.before ++ (space.after ++ '\n' :: rest)) := by
        cases isArray <;> simp [Line.write, Line.body, hbefore.comments_append, hopen, hpath, hclose]
      rw [htext, hbefore.comments_append, hafter.comments_append, Line.comments, List.append_assoc]
  | entry path space v =>
      obtain ⟨⟨hne, hlength, hkeys⟩, ⟨hbefore, hafter⟩, -⟩ := h
      have htext : (Line.entry path space v).write ++ rest =
          writePath path ++ '=' :: (space.before ++ (v.written ++ (space.after ++ '\n' :: rest))) := by
        simp [Line.write, Line.body]
      rw [htext, comments_writePath hne hlength hkeys (.inl rfl), comments_plain rfl,
        hbefore.comments_append, hparted _ (hafter.follows rest), hafter.comments_append, Line.comments]
      simp

theorem comments_writeLines {lines : List Line} (hfits : ∀ l ∈ lines, l.Fits documentManner)
    (hparted : ∀ l ∈ lines, l.Parted) (last : List Char) :
    comments (lines.flatMap Line.write ++ last) = lines.flatMap Line.comments ++ comments last := by
  induction lines with
  | nil => rfl
  | cons line lines ih =>
      obtain ⟨hline, hfits⟩ := List.forall_mem_cons.mp hfits
      obtain ⟨hparted, hrest⟩ := List.forall_mem_cons.mp hparted
      rw [List.flatMap_cons, List.append_assoc, comments_write hline hparted, ih hfits hrest]
      simp

namespace Document

theorem gists_write {d : Document} (h : d.Good) :
    gists? d.write = some ((Entries.lines d.entries).map Line.gist) := by
  obtain ⟨lines, hread, hgists⟩ := readLines_write (Entries.lines_fit h.sound) h.last
  rw [gists?, write, dropMark_of_readLines hread, hread]
  exact congrArg some hgists

end Document

namespace Entries

/-- The lines of the entries around a value, and of the sections behind them, do not depend on it. -/
theorem lines_value (before after : Entries) : ∃ p q, (∀ l ∈ p, ∃ path space v, l = .entry path space v) ∧
    Entries.lines (before ++ after) = p ++ q ∧
      ∀ k space v, Entries.lines (before ++ (k, .value space v) :: after) = p ++ .entry [k] space v :: q := by
  refine ⟨ownLines [] before, ownLines [] after ++
    ((sections [] (before ++ after)).mergeSort fun a b => a.place ≤ b.place).flatMap Section.lines,
    fun l hl => ?_, ?_, fun k space v => ?_⟩
  · obtain ⟨path, space, v, -, rfl⟩ := mem_ownLines hl
    exact ⟨path, space, v, rfl⟩
  · simp [Entries.lines, ownLines_append]
  · simp [Entries.lines, ownLines_append, ownLines, itemLines, sections_append, sections, itemSections]

end Entries

namespace Document

theorem dropMark_comments (text : List Char) : comments (dropMark text) = comments text := by
  unfold dropMark
  split
  · exact (comments_plain rfl _).symm
  · rfl

theorem lines_of_read? {text : List Char} {d : Document} (h : read? text = some d) :
    ∃ lines, readLines (dropMark text) = some (lines, d.last) ∧ Entries.ofLines? lines = some d.entries := by
  obtain ⟨⟨lines, last⟩, hlines, h⟩ := Option.bind_eq_some_iff.mp h
  obtain ⟨entries, hentries, heq⟩ := Option.bind_eq_some_iff.mp h
  cases heq
  exact ⟨lines, hlines, hentries⟩

/-- A document that was read has the comments of the text, in their order if the text is in order. -/
theorem comments_read? {ordered : Bool} {text : List Char} {d : Document} (h : read? text = some d)
    (horder : ordered = true → Tidy text) :
    (∀ l ∈ Entries.lines d.entries, l.Parted) ∧ Alike ordered (comments text) (comments d.write) := by
  obtain ⟨lines, hread, hes⟩ := lines_of_read? h
  obtain ⟨hfits, -⟩ := readLines_fit hread
  obtain ⟨hparted, halike⟩ := readLines_keeps hread fun hordered => (horder hordered).2
  have hinorder (hordered : ordered = true) : InOrder [[]] [] [] (lines.map Line.gist) := by
    have htest := (horder hordered).1
    rw [hread] at htest
    exact of_decide_eq_true htest
  obtain ⟨n, current, hstanding⟩ :=
    Entries.ofLines?_standing hes fun l hl => fits_parted.mpr ⟨hfits l hl, hparted l hl⟩
  have hall : ∀ l ∈ Entries.lines d.entries, l.Fits documentManner ∧ l.Parted :=
    fun l hl => fits_parted.mp (Entries.lines_fit hstanding.sound l hl)
  refine ⟨fun l hl => (hall l hl).2, ?_⟩
  rw [dropMark_comments] at halike
  rw [write, comments_writeLines (fun l hl => (hall l hl).1) fun l hl => (hall l hl).2]
  exact halike.trans ((Entries.alike_ofLines? hes hfits hinorder).append (alike_of_eq rfl))

theorem comments_perm {text : List Char} {d : Document} (h : read? text = some d) :
    (∀ l ∈ Entries.lines d.entries, l.Parted) ∧ (Toml.comments text).Perm (Toml.comments d.write) := by
  have hall : _ ∧ Alike false _ _ := comments_read? h fun h => by cases h
  exact hall

theorem comments_of_tidy {text : List Char} {d : Document} (h : read? text = some d) (htidy : Tidy text) :
    Toml.comments text = Toml.comments d.write := by
  have hall : _ ∧ Alike true _ _ := comments_read? h fun _ => htidy
  exact hall.2

theorem gists_of_tidy {text : List Char} {d : Document} (h : read? text = some d) (htidy : Tidy text) :
    gists? text = gists? d.write := by
  obtain ⟨lines, hread, hes⟩ := lines_of_read? h
  have htest := htidy.1
  rw [hread] at htest
  have hmarks := Entries.marks_ofLines? hes (readLines_fit hread).1 (of_decide_eq_true htest)
  have hgists (lines : List Line) : lines.map Line.gist = (lines.map Line.mark).map (·.1) := by
    rw [List.map_map]
    rfl
  rw [gists_write (good_of_read? h), gists?, hread, hgists, hmarks, ← hgists]
  rfl

/-- Whether no table stands under a key of the outermost table. -/
def isPlain (name : String) (d : Document) : Bool :=
  match Entries.find? name d.entries with
  | some (.table ..) | some (.tables _) => false
  | _ => true

/-- The comments in the value under a key of the outermost table, and behind it. -/
def remarks (name : String) (d : Document) : List (List Char) :=
  match Entries.find? name d.entries with
  | some (.value space v) => comments v.written ++ comments space.after
  | _ => []

/-- What is said of a key of the outermost table, if it has a value. -/
def saying (name : String) (d : Document) : List Gist :=
  match Entries.find? name d.entries with
  | some (.value _ v) => [.entry [name] v.content.sense]
  | _ => []

/-- The second text is the first one, with another value under a key of the outermost table or with a new key:
only the comments of the old value are not there, and all else that is said has kept its place. -/
structure Restated (name s : String) (d : Document) (old new : List Char) : Prop where
  comments : ∃ a b, Toml.comments old = a ++ d.remarks name ++ b ∧ Toml.comments new = a ++ b
  gists : ∃ p q, (∀ g ∈ p, ∃ path sense, g = Gist.entry path sense) ∧
    gists? old = some (p ++ d.saying name ++ q) ∧
    gists? new = some (p ++ .entry [name] (.plain (.string s)) :: q)

theorem stringValue_parted (s : String) :
    (stringValue s).Parted ∧ Toml.comments (stringValue s).written = [] := by
  have hread (q : List Char) (hq : Quoted.Unquoted q) :
      Toml.comments (Quoted.write s.toList ++ q) = Toml.comments q :=
    comments_string (Quoted.read?_write s.toList hq)
  have hnone : Toml.comments (Quoted.write s.toList) = [] := by
    simpa using hread [] ⟨nofun, nofun⟩
  refine ⟨fun q hq => ?_, hnone⟩
  rw [stringValue, hnone]
  exact hread q hq.unquoted

theorem lines_setString {name : String} {d : Document} (s : String) (hplain : d.isPlain name = true) :
    ∃ p k old q, k.name = name ∧ (∀ l ∈ p, ∃ path space v, l = .entry path space v) ∧
      Entries.lines d.entries = p ++ old ++ q ∧
      Entries.lines (d.setString name s).entries = p ++ .entry [k] ⟨[' '], []⟩ (stringValue s) :: q ∧
      old.map Line.gist = d.saying name ∧
      old.flatMap Line.comments = Toml.comments (lead [k]) ++ d.remarks name := by
  cases hfind : Entries.find? name d.entries with
  | none =>
      obtain ⟨p, q, hp, hlines, hvalue⟩ := Entries.lines_value d.entries []
      refine ⟨p, { name, written := name.toList }, [], q, rfl, hp, by simpa using hlines, ?_,
        by simp [saying, hfind], by simp [remarks, hfind, lead]⟩
      rw [setString, Entries.set, hfind]
      exact hvalue _ _ _
  | some i =>
      obtain ⟨space, v, rfl⟩ : ∃ space v, i = .value space v := by
        rw [isPlain, hfind] at hplain
        cases i with
        | value space v => exact ⟨space, v, rfl⟩
        | _ => cases hplain
      obtain ⟨before, k, after, hes, hk, -, hreplace⟩ := Entries.exists_of_find? hfind
      obtain ⟨p, q, hp, -, hvalue⟩ := Entries.lines_value before after
      refine ⟨p, k, [.entry [k] space v], q, hk, hp, ?_, ?_, ?_, ?_⟩
      · rw [hes, hvalue]
        simp
      · rw [setString, Entries.set, hfind, Option.isSome_some, if_pos rfl, hreplace]
        exact hvalue _ _ _
      · simp [saying, hfind, Line.gist, hk]
      · simp [remarks, hfind, Line.comments]

/-- Putting a text under a key, where no table stands, restates the document. -/
theorem restated_setString {text : List Char} {d : Document} (hread : read? text = some d) {name : String}
    (hne : name.toList ≠ []) (hname : ∀ c ∈ name.toList, isBareChar c = true)
    (hplain : d.isPlain name = true) (s : String) :
    d.Restated name s d.write (d.setString name s).write := by
  have hgood := good_of_read? hread
  have hset := hgood.setString hne hname s
  obtain ⟨hparted, -⟩ := comments_perm hread
  obtain ⟨p, k, old, q, hk, hp, hlines, hlines', hold, hremarks⟩ := lines_setString s hplain
  obtain ⟨hvalue, hnone⟩ := stringValue_parted s
  have hparted' : ∀ l ∈ Entries.lines (d.setString name s).entries, l.Parted := by
    rw [hlines']
    rw [hlines] at hparted
    intro l hl
    rcases List.mem_append.mp hl with hl | hl
    · exact hparted l (by simp [hl])
    · rcases List.mem_cons.mp hl with rfl | hl
      · exact hvalue
      · exact hparted l (by simp [hl])
  constructor
  · refine ⟨p.flatMap Line.comments ++ Toml.comments (lead [k]), q.flatMap Line.comments ++ Toml.comments d.last,
      ?_, ?_⟩
    · rw [write, comments_writeLines (Entries.lines_fit hgood.sound) hparted, hlines]
      simp [hremarks]
    · rw [write, comments_writeLines (Entries.lines_fit hset.sound) hparted', hlines']
      simp [Line.comments, hnone, setString]
  · refine ⟨p.map Line.gist, q.map Line.gist, fun g hg => ?_, ?_, ?_⟩
    · obtain ⟨l, hl, rfl⟩ := List.mem_map.mp hg
      obtain ⟨path, space, v, rfl⟩ := hp l hl
      exact ⟨_, _, rfl⟩
    · rw [gists_write hgood, hlines, ← hold]
      simp
    · rw [gists_write hset, hlines']
      simp [Line.gist, hk, stringValue, Content.sense]

end Document

end ServerLink.Toml
