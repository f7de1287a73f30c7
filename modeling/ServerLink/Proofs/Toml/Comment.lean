import ServerLink.Proofs.Toml.Inline

namespace ServerLink.Toml

open Quoted (put_eq_some)

/-- Whether a comment goes on with a character. -/
def inComment (c : Char) : Bool :=
  c != '\n' && c != '\r'

/-- The comments of a text, from the first to the last. What stands in a string is none. -/
def comments (s : List Char) : List (List Char) :=
  match s with
  | [] => []
  | '#' :: s => ('#' :: s.takeWhile inComment) :: comments (s.dropWhile inComment)
  | c :: s =>
      match (Quoted.read? (c :: s)).bind fun p => Shorter.of? (c :: s) p.2 with
      | some rest => comments rest.1
      | none => comments s
termination_by s.length
decreasing_by
  · exact Nat.lt_succ_of_le (List.dropWhile_suffix inComment).length_le
  · exact rest.2
  · exact Nat.lt_succ_self _

@[simp] theorem comments_nil : comments [] = [] := by
  rw [comments]

theorem comments_hash (s : List Char) :
    comments ('#' :: s) = ('#' :: s.takeWhile inComment) :: comments (s.dropWhile inComment) := by
  rw [comments]

def isPlain (c : Char) : Bool :=
  c != '#' && c != '"' && c != '\''

theorem comments_plain {c : Char} (hc : isPlain c = true) (s : List Char) :
    comments (c :: s) = comments s := by
  obtain ⟨⟨hhash, hdouble⟩, hsingle⟩ : (c ≠ '#' ∧ c ≠ '"') ∧ c ≠ '\'' := by simpa [isPlain] using hc
  have hread : Quoted.read? (c :: s) = none := by
    unfold Quoted.read?
    split <;> simp_all
  rw [comments]
  · simp [hread]
  · exact hhash

theorem comments_append {w : List Char} (hw : ∀ c ∈ w, isPlain c = true) (s : List Char) :
    comments (w ++ s) = comments s := by
  induction w with
  | nil => rfl
  | cons c w ih =>
      obtain ⟨hc, hw⟩ := List.forall_mem_cons.mp hw
      rw [List.cons_append, comments_plain hc, ih hw]

theorem comments_eq_nil {w : List Char} (hw : ∀ c ∈ w, isPlain c = true) : comments w = [] := by
  simpa using comments_append hw []

theorem comments_string {s t r : List Char} (h : Quoted.read? s = some (t, r)) :
    comments s = comments r := by
  obtain ⟨w, rfl, hopens, -⟩ := Quoted.read?_local h
  cases w with
  | nil => rcases hopens with hopens | hopens <;> cases hopens
  | cons c w =>
      have hlt : r.length < (c :: w ++ r).length := lt_length_append (List.cons_ne_nil c w) r
      have hhash : c ≠ '#' := by
        rintro rfl
        rcases hopens with hopens | hopens <;> cases hopens
      rw [List.cons_append] at h hlt ⊢
      rw [comments]
      · simp [h, Shorter.of?_of_lt hlt]
      · exact hhash

theorem inComment_of_not_isControl {c : Char} (h : Quoted.isControl c = false) : inComment c = true := by
  obtain ⟨hline, hreturn⟩ := ne_of_not_isControl h
  simp [inComment, hline, hreturn]

theorem isPlain_of_isLineSpace {c : Char} (h : isLineSpace c = true) : isPlain c = true := by
  rcases isLineSpace_iff.mp h with rfl | rfl <;> rfl

theorem Blank.comments {b : List Char} (hb : Blank b) : comments b = [] :=
  comments_eq_nil fun c hc => isPlain_of_isLineSpace (hb c hc)

theorem Blank.comments_append {b : List Char} (hb : Blank b) (s : List Char) :
    Toml.comments (b ++ s) = Toml.comments s :=
  Toml.comments_append (fun c hc => isPlain_of_isLineSpace (hb c hc)) s

/-- A text, of which `g` was kept and `r` is the rest, has the comments of both. Within a comment, what is kept
goes on with it as far as the text does. -/
def Splits (comment : Bool) (s g r : List Char) : Prop :=
  if comment then s.takeWhile inComment = g.takeWhile inComment ∧
    comments (s.dropWhile inComment) = comments (g.dropWhile inComment) ++ comments r
  else comments s = comments g ++ comments r

theorem Splits.breaks {s g r : List Char} (h : Splits false s g r) (comment : Bool) :
    Splits comment ('\n' :: s) ('\n' :: g) r ∧ Splits comment ('\r' :: '\n' :: s) ('\n' :: g) r := by
  have hsplit : comments s = comments g ++ comments r := h
  have hline (u : List Char) : comments ('\n' :: u) = comments u := comments_plain rfl u
  have hreturn (u : List Char) : comments ('\r' :: u) = comments u := comments_plain rfl u
  cases comment <;> simp [Splits, inComment, hline, hreturn, hsplit]

theorem Splits.inside {s g r : List Char} (h : Splits true s g r) {c : Char} (hc : inComment c = true) :
    Splits true (c :: s) (c :: g) r := by
  obtain ⟨htake, hdrop⟩ := h
  simp [Splits, hc, htake, hdrop]

theorem Splits.space {s g r : List Char} (h : Splits false s g r) {c : Char} (hc : isLineSpace c = true) :
    Splits false (c :: s) (c :: g) r := by
  have hplain := isPlain_of_isLineSpace hc
  have hsplit : comments s = comments g ++ comments r := h
  simp [Splits, comments_plain hplain, hsplit]

theorem Splits.opens {s g r : List Char} (h : Splits true s g r) :
    Splits false ('#' :: s) ('#' :: g) r := by
  obtain ⟨htake, hdrop⟩ := h
  simp [Splits, comments_hash, htake, hdrop]

/-- A gap has the comments of what it was read from, and ends none of those that stand behind it. -/
theorem splits_of_readGap {comment : Bool} {s g r : List Char} (h : readGap comment s = some (g, r)) :
    Splits comment s g r ∧ (r ≠ [] → ∀ q, Splits comment (g ++ q) g q) := by
  fun_induction readGap comment s generalizing g with
  | case1 comment =>
      cases h
      exact ⟨by cases comment <;> simp [Splits], fun hr => absurd rfl hr⟩
  | case2 comment s ih =>
      obtain ⟨u, hu, rfl⟩ := put_eq_some h
      obtain ⟨hread, hbehind⟩ := ih hu
      exact ⟨(hread.breaks comment).1, fun hr q => ((hbehind hr q).breaks comment).1⟩
  | case3 comment s ih =>
      obtain ⟨u, hu, rfl⟩ := put_eq_some h
      obtain ⟨hread, hbehind⟩ := ih hu
      exact ⟨(hread.breaks comment).2, fun hr q => ((hbehind hr q).breaks comment).1⟩
  | case4 => cases h
  | case5 c s _ _ hcontrol ih =>
      obtain ⟨u, hu, rfl⟩ := put_eq_some h
      have hc := inComment_of_not_isControl (c := c) (by simpa using hcontrol)
      obtain ⟨hread, hbehind⟩ := ih hu
      exact ⟨hread.inside hc, fun hr q => (hbehind hr q).inside hc⟩
  | case6 comment c s _ _ hcomment hspace ih =>
      obtain ⟨u, hu, rfl⟩ := put_eq_some h
      obtain rfl : comment = false := by simpa using hcomment
      obtain ⟨hread, hbehind⟩ := ih hu
      exact ⟨hread.space hspace, fun hr q => (hbehind hr q).space hspace⟩
  | case7 comment s hcomment _ _ hspace ih =>
      obtain ⟨u, hu, rfl⟩ := put_eq_some h
      obtain rfl : comment = false := by simpa using hcomment
      obtain ⟨hread, hbehind⟩ := ih hu
      exact ⟨hread.opens, fun hr q => (hbehind hr q).opens⟩
  | case8 comment c s _ _ hcomment =>
      cases h
      obtain rfl : comment = false := by simpa using hcomment
      simp [Splits]

theorem comments_of_readGap {s g r : List Char} (h : readGap false s = some (g, r)) :
    comments s = comments g ++ comments r :=
  (splits_of_readGap h).1

theorem IsGap.comments_append {g : List Char} (hg : IsGap g) (s : List Char) :
    comments (g ++ s) = comments g ++ comments s := by
  have hsolid : Solid ['='] := by
    rintro c ⟨⟩
    decide
  exact (splits_of_readGap (hg.readGap hsolid)).2 (List.cons_ne_nil _ _) s

theorem splits_of_readLineEnd {comment : Bool} {s a r : List Char}
    (h : readLineEnd comment s = some (a, r)) : Splits comment s a r := by
  fun_induction readLineEnd comment s generalizing a with
  | case1 comment =>
      cases h
      cases comment <;> simp [Splits]
  | case2 comment s =>
      cases h
      cases comment <;> simp [Splits, inComment, comments_plain (c := '\n') rfl]
  | case3 comment s =>
      cases h
      cases comment <;>
        simp [Splits, inComment, comments_plain (c := '\n') rfl, comments_plain (c := '\r') rfl]
  | case4 => cases h
  | case5 c s _ _ hcontrol ih =>
      obtain ⟨u, hu, rfl⟩ := put_eq_some h
      exact (ih hu).inside (inComment_of_not_isControl (by simpa using hcontrol))
  | case6 comment c s _ _ hcomment hspace ih =>
      obtain ⟨u, hu, rfl⟩ := put_eq_some h
      obtain rfl : comment = false := by simpa using hcomment
      exact (ih hu).space hspace
  | case7 comment s hcomment _ _ hspace ih =>
      obtain ⟨u, hu, rfl⟩ := put_eq_some h
      obtain rfl : comment = false := by simpa using hcomment
      exact (ih hu).opens
  | case8 => cases h

theorem comments_of_readLineEnd {s a r : List Char} (h : readLineEnd false s = some (a, r)) :
    comments s = comments a ++ comments r :=
  splits_of_readLineEnd h

theorem EndsLine.comments_append {a : List Char} (ha : EndsLine a) (s : List Char) :
    comments (a ++ '\n' :: s) = comments a ++ comments s :=
  comments_of_readLineEnd (ha s)

theorem isPlain_of_isBareChar {c : Char} (h : isBareChar c = true) : isPlain c = true := by
  have hne : c ≠ '#' ∧ c ≠ '"' ∧ c ≠ '\'' := by
    refine ⟨?_, ?_, ?_⟩ <;>
    · rintro rfl
      cases h
  simp [isPlain, hne]

theorem isPlain_of_isWordChar {c : Char} (h : Scalar.isWordChar c = true) : isPlain c = true := by
  have hne : c ≠ '#' ∧ c ≠ '"' ∧ c ≠ '\'' := by
    refine ⟨?_, ?_, ?_⟩ <;>
    · rintro rfl
      cases h
  simp [isPlain, hne]

/-- A key holds no comments, if no quote stands behind it. -/
theorem comments_of_readName {s w r : List Char} {name : String}
    (h : readName s = some ((name, w), r)) (hr : Quoted.Unquoted r) : comments s = comments r := by
  unfold readName at h
  split at h
  · obtain ⟨⟨t, u⟩, hread, heq⟩ := Option.map_eq_some_iff.mp h
    cases heq
    obtain ⟨v, rfl, hne, hv⟩ := Quoted.readBasic_local hread
    have hclose (s : List Char) : Quoted.readBasic ('"' :: s) = some ([], s) := by simp [Quoted.readBasic]
    exact comments_string
      ((Quoted.read?_basic (Quoted.not_two_quotes hclose hne hv hr.1)).trans (hv u))
  · obtain ⟨⟨t, u⟩, hread, heq⟩ := Option.map_eq_some_iff.mp h
    cases heq
    obtain ⟨v, rfl, hne, hv⟩ := Quoted.readLiteral_local hread
    have hclose (s : List Char) : Quoted.readLiteral ('\'' :: s) = some ([], s) := by
      simp [Quoted.readLiteral]
    exact comments_string
      ((Quoted.read?_literal (Quoted.not_two_quotes hclose hne hv hr.2)).trans (hv u))
  · cases hspan : s.span isBareChar with
    | mk bare rest =>
        rw [hspan] at h
        obtain ⟨rfl, hbare, -⟩ := Text.of_span hspan
        simp only at h
        split at h
        · cases h
        · cases h
          exact comments_append (fun c hc => isPlain_of_isBareChar (hbare c hc)) _

theorem unquoted_append {b s : List Char} (hb : Blank b) (hs : Quoted.Unquoted s) :
    Quoted.Unquoted (b ++ s) := by
  cases b with
  | nil => exact hs
  | cons c b =>
      have hc := hb c List.mem_cons_self
      constructor <;>
      · intro h
        cases h
        cases hc

theorem comments_of_readKeys {s rest : List Char} {keys : List Key} {t : Shorter s}
    (h : readKeys s = some (keys, t)) (ht : t.1 = rest) (hrest : Quoted.Unquoted rest) :
    comments s = comments rest := by
  induction hn : s.length using Nat.strongRecOn generalizing s keys with
  | ind n ih =>
      obtain ⟨key, next, hcuts, hlt, hmore⟩ := readKeys_inv h
      obtain ⟨r, u, hbefore, hname, hafter⟩ := hcuts.cuts
      obtain ⟨hs, hblank, -⟩ := of_splitSpace hbefore
      obtain ⟨rfl, hblank', -⟩ := of_splitSpace hafter
      have hkey (hnext : Quoted.Unquoted next) : comments s = comments next := by
        rw [hs, hblank.comments_append, comments_of_readName hname (unquoted_append hblank' hnext),
          hblank'.comments_append]
      obtain ⟨-, hend⟩ | ⟨r', more, v, rfl, hmore, -, hv⟩ := hmore
      · obtain rfl : next = rest := hend.symm.trans ht
        exact hkey hrest
      · have hshort : r'.length < n := by
          rw [List.length_cons] at hlt
          omega
        have hdot : Quoted.Unquoted ('.' :: r') := ⟨nofun, nofun⟩
        rw [hkey hdot, comments_plain rfl, ih r'.length hshort hmore (hv.symm.trans ht) rfl]

theorem comments_of_readPath {before s rest : List Char} {path : List Key} {t : Shorter s}
    (h : readPath before s = some (path, t)) (ht : t.1 = rest) (hrest : Quoted.Unquoted rest) :
    comments s = comments rest := by
  obtain ⟨⟨keys, u⟩, hkeys, h⟩ := Option.bind_eq_some_iff.mp h
  dsimp only at h
  split at h
  · cases h
  · cases h
    exact comments_of_readKeys hkeys ht hrest

theorem unquoted_of_endsPath {s : List Char} (hs : EndsPath s) : Quoted.Unquoted s := by
  constructor <;>
  · intro h
    rcases hs with hs | hs <;>
    · rw [hs] at h
      cases h

/-- The space in front of a path. -/
def lead : List Key → List Char
  | [] => []
  | k :: ks => ((k :: ks).getLastD k).outer.before

theorem comments_writePath {path : List Key} (hne : path ≠ []) (hlength : path.length ≤ maxDepth)
    (hkeys : GoodKeys IsGap path) {rest : List Char} (hrest : EndsPath rest) :
    comments (writePath path ++ rest) = comments (lead path) ++ comments rest := by
  obtain ⟨k, ks, rfl⟩ := List.exists_cons_of_ne_nil hne
  obtain ⟨hk, hks⟩ := List.forall_mem_cons.mp hkeys.good
  have hgap : IsGap (lead (k :: ks)) := hkeys.last
  obtain ⟨path', t, hread, ht, -⟩ := readPath_writeKeys hk hks hlength [] blank_nil hrest
  have hpath : comments (writeKeys k ks ++ rest) = comments rest :=
    comments_of_readPath hread ht (unquoted_of_endsPath hrest)
  rw [writePath, List.append_assoc]
  exact (hgap.comments_append _).trans (congrArg _ hpath)

theorem isPlain_of_splitWord {s w r : List Char} (h : Scalar.splitWord s = (w, r)) :
    ∀ c ∈ w, isPlain c = true := by
  have hspan {s w r : List Char} (h : s.span Scalar.isWordChar = (w, r)) : ∀ c ∈ w, isPlain c = true :=
    fun c hc => isPlain_of_isWordChar ((Text.of_span h).2.1 c hc)
  unfold Scalar.splitWord at h
  split at h
  · rename_i date c t hdate
    split at h
    · cases htime : (c :: t).span Scalar.isWordChar with
      | mk more rest =>
          rw [htime] at h
          cases h
          refine List.forall_mem_append.mpr ⟨hspan hdate, List.forall_mem_cons.mpr ⟨rfl, hspan htime⟩⟩
    · cases h
      exact hspan hdate
  · exact hspan h

theorem isPlain_of_word {s r : List Char} {v : Value} (h : Scalar.read? s = some (v, r)) :
    ∀ c ∈ v.written, isPlain c = true := by
  cases hsplit : Scalar.splitWord s with
  | mk word rest =>
      unfold Scalar.read? at h
      rw [hsplit] at h
      obtain ⟨content, -, hpair⟩ := Option.bind_eq_some_iff.mp h
      cases hpair
      exact isPlain_of_splitWord hsplit

def Line.comments : Line → List (List Char)
  | .entry path space v => Toml.comments (lead path) ++ Toml.comments v.written ++ Toml.comments space.after
  | .header _ _ space => Toml.comments space.before ++ Toml.comments space.after

/-- What a line says, and its comments. -/
def Line.mark (l : Line) : Gist × List (List Char) :=
  (l.gist, l.comments)

end ServerLink.Toml
