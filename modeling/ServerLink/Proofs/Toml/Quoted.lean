import ServerLink.Toml.Quoted

namespace ServerLink.Toml.Quoted

/-- A text that does not begin with a quote. -/
def Unquoted (s : List Char) : Prop :=
  s.head? ≠ some '"' ∧ s.head? ≠ some '\''

theorem put_eq_some {c : Char} {x : Option (List Char × List Char)} {t r : List Char}
    (h : put c x = some (t, r)) : ∃ u, x = some (u, r) ∧ t = c :: u := by
  unfold put at h
  obtain ⟨⟨u, q⟩, hx, heq⟩ := Option.map_eq_some_iff.mp h
  cases heq
  exact ⟨u, hx, rfl⟩

@[simp] theorem put_some (c : Char) (t r : List Char) : put c (some (t, r)) = some (c :: t, r) := rfl

theorem bind_put_eq_some {x : Option Char} {y : Option (List Char × List Char)} {t r : List Char}
    (h : (x.bind fun c => put c y) = some (t, r)) :
    ∃ c u, x = some c ∧ y = some (u, r) ∧ t = c :: u := by
  obtain ⟨c, hc, hput⟩ := Option.bind_eq_some_iff.mp h
  obtain ⟨u, hu, rfl⟩ := put_eq_some hput
  exact ⟨c, u, hc, hu, rfl⟩

theorem escaped?_ne {c d : Char} (h : escaped? c = some d) : c ≠ 'x' ∧ c ≠ 'u' ∧ c ≠ 'U' := by
  refine ⟨?_, ?_, ?_⟩ <;>
  · rintro rfl
    cases h

theorem readBasic_plain {c : Char} (hquote : c ≠ '"') (hslash : c ≠ '\\')
    (hcontrol : isControl c = false) (s : List Char) :
    readBasic (c :: s) = put c (readBasic s) := by
  rw [readBasic] <;> simp_all

/-- What was read between double quotes is read from the same characters, whatever stands behind them. -/
theorem readBasic_local {s t r : List Char} (h : readBasic s = some (t, r)) :
    ∃ w, s = w ++ r ∧ w ≠ [] ∧ ∀ q, readBasic (w ++ q) = some (t, q) := by
  fun_induction readBasic s generalizing t with
  | case1 => cases h
  | case2 s =>
      cases h
      exact ⟨['"'], rfl, nofun, fun q => by simp [readBasic]⟩
  | case3 a b s ih =>
      obtain ⟨c, u, hc, hu, rfl⟩ := bind_put_eq_some h
      obtain ⟨w, rfl, -, hw⟩ := ih hu
      exact ⟨'\\' :: 'x' :: a :: b :: w, rfl, nofun, fun q => by simp [readBasic, hc, hw]⟩
  | case4 a b c d s ih =>
      obtain ⟨e, u, he, hu, rfl⟩ := bind_put_eq_some h
      obtain ⟨w, rfl, -, hw⟩ := ih hu
      exact ⟨'\\' :: 'u' :: a :: b :: c :: d :: w, rfl, nofun, fun q => by simp [readBasic, he, hw]⟩
  | case5 a b c d e f g i s ih =>
      obtain ⟨j, u, hj, hu, rfl⟩ := bind_put_eq_some h
      obtain ⟨w, rfl, -, hw⟩ := ih hu
      exact ⟨'\\' :: 'U' :: a :: b :: c :: d :: e :: f :: g :: i :: w, rfl, nofun, fun q => by
        simp [readBasic, hj, hw]⟩
  | case6 c s _ _ _ ih =>
      obtain ⟨d, u, hd, hu, rfl⟩ := bind_put_eq_some h
      obtain ⟨w, rfl, -, hw⟩ := ih hu
      obtain ⟨hx, hu, hU⟩ := escaped?_ne hd
      exact ⟨'\\' :: c :: w, rfl, nofun, fun q => by simp [readBasic, hx, hu, hU, hd, hw]⟩
  | case7 => cases h
  | case8 c s hquote _ _ _ _ hplain ih =>
      obtain ⟨u, hu, rfl⟩ := put_eq_some h
      obtain ⟨w, rfl, -, hw⟩ := ih hu
      obtain ⟨hcontrol, hslash⟩ : isControl c = false ∧ c ≠ '\\' := by simpa using hplain
      exact ⟨c :: w, rfl, nofun, fun q => by
        rw [List.cons_append, readBasic_plain hquote hslash hcontrol, hw, put_some]⟩

theorem readLiteral_plain {c : Char} (hquote : c ≠ '\'') (hcontrol : isControl c = false)
    (s : List Char) : readLiteral (c :: s) = put c (readLiteral s) := by
  rw [readLiteral] <;> simp_all

theorem readLiteral_local {s t r : List Char} (h : readLiteral s = some (t, r)) :
    ∃ w, s = w ++ r ∧ w ≠ [] ∧ ∀ q, readLiteral (w ++ q) = some (t, q) := by
  fun_induction readLiteral s generalizing t with
  | case1 => cases h
  | case2 s =>
      cases h
      exact ⟨['\''], rfl, nofun, fun q => by simp [readLiteral]⟩
  | case3 => cases h
  | case4 c s hquote hplain ih =>
      obtain ⟨u, hu, rfl⟩ := put_eq_some h
      obtain ⟨w, rfl, -, hw⟩ := ih hu
      exact ⟨c :: w, rfl, nofun, fun q => by
        rw [List.cons_append, readLiteral_plain hquote (by simpa using hplain), hw, put_some]⟩

theorem readLines_close {r : List Char} (hr : r.head? ≠ some '"') (skipping : Bool) :
    readLines skipping ('"' :: '"' :: '"' :: r) = some ([], r) ∧
      readLines skipping ('"' :: '"' :: '"' :: '"' :: r) = some (['"'], r) ∧
      readLines skipping ('"' :: '"' :: '"' :: '"' :: '"' :: r) = some (['"', '"'], r) := by
  cases r with
  | nil => exact ⟨rfl, rfl, rfl⟩
  | cons c r =>
      have hc : c ≠ '"' := by simpa using hr
      simp [readLines, hc]

theorem readLines_plain {c : Char} {s : List Char} (skipping : Bool) (hslash : c ≠ '\\')
    (hreturn : c ≠ '\r') (hquotes : c = '"' → ¬ ['"', '"'] <+: s) :
    readLines skipping (c :: s) =
      if skipping && (c == ' ' || c == '\t' || c == '\n') then readLines true s
      else if isControl c && c != '\n' then none
      else put c (readLines false s) := by
  have hnot (u : List Char) (hc : c = '"') : s ≠ '"' :: '"' :: u := by
    rintro rfl
    exact hquotes hc ⟨u, rfl⟩
  rw [readLines] <;> simp_all

theorem readLines_skip {c : Char} (hc : (c = ' ' ∨ c = '\t') ∨ c = '\n') (s : List Char) :
    readLines true (c :: s) = readLines true s := by
  rcases hc with (rfl | rfl) | rfl <;> simp [readLines]

/-- Whether a text begins with two characters depends on its beginning. -/
theorem not_prefix_append {w r q : List Char} {a b : Char} (hlength : 3 ≤ w.length)
    (h : ¬ [a, b] <+: w ++ r) : ¬ [a, b] <+: w ++ q := by
  match w, hlength with
  | _ :: _ :: _, _ => simpa using h

@[simp] theorem endsLine_quote (s : List Char) : endsLine ('"' :: s) = false := rfl

@[simp] theorem endsLine_slash (s : List Char) : endsLine ('\\' :: s) = false := rfl

@[simp] theorem endsLine_newline (s : List Char) : endsLine ('\n' :: s) = true := rfl

@[simp] theorem endsLine_return (s : List Char) : endsLine ('\r' :: '\n' :: s) = true := rfl

theorem endsLine_blank {c : Char} (h : (c == ' ' || c == '\t') = true) (s : List Char) :
    endsLine (c :: s) = endsLine s := by
  simp only [endsLine, List.dropWhile_cons, h, if_true]

theorem endsLine_cons {c : Char} {s : List Char} (h : endsLine (c :: s) = true) :
    c = ' ' ∨ c = '\t' ∨ c = '\n' ∨ c = '\r' := by
  refine Decidable.byContradiction fun hnot => ?_
  simp only [not_or] at hnot
  obtain ⟨hspace, htab, hline, hreturn⟩ := hnot
  rw [endsLine, List.dropWhile_cons] at h
  simp [hspace, htab, hline, hreturn] at h

/-- A text begins with characters that are read as the same inside of a string whatever stands behind them,
if it is no other quote. An end of a line that an escape skips lies among these characters. -/
def IsLines (skipping : Bool) (s t r : List Char) : Prop :=
  ∃ w, s = w ++ r ∧ 3 ≤ w.length ∧
    (∀ q, q.head? ≠ some '"' → readLines skipping (w ++ q) = some (t, q)) ∧
    (skipping = true → endsLine s = true → ∀ q, endsLine (w ++ q) = true)

theorem IsLines.escape {skipping : Bool} {c : Char} {e s t r : List Char} (h : IsLines false s t r)
    (hread : ∀ v, readLines skipping ('\\' :: e ++ v) = put c (readLines false v)) :
    IsLines skipping ('\\' :: e ++ s) (c :: t) r := by
  obtain ⟨w, rfl, hlength, hw, -⟩ := h
  refine ⟨'\\' :: e ++ w, by simp, by simp only [List.length_append]; omega, fun q hq => ?_, by simp⟩
  rw [List.append_assoc, hread, hw q hq, put_some]

/-- What was read between three double quotes is read from the same characters. -/
theorem readLines_local {skipping : Bool} {s t r : List Char}
    (h : readLines skipping s = some (t, r)) : IsLines skipping s t r := by
  fun_induction readLines skipping s generalizing t with
  | case1 => cases h
  | case2 skipping s =>
      cases h
      exact ⟨['"', '"', '"', '"', '"'], rfl, by simp, fun q hq => (readLines_close hq _).2.2, by simp⟩
  | case3 skipping s =>
      cases h
      exact ⟨['"', '"', '"', '"'], rfl, by simp, fun q hq => (readLines_close hq _).2.1, by simp⟩
  | case4 skipping s =>
      cases h
      exact ⟨['"', '"', '"'], rfl, by simp, fun q hq => (readLines_close hq _).1, by simp⟩
  | case5 skipping a b s ih =>
      obtain ⟨c, u, hc, hu, rfl⟩ := bind_put_eq_some h
      exact (ih hu).escape (e := ['x', a, b]) fun v => by simp [readLines, hc]
  | case6 skipping a b c d s ih =>
      obtain ⟨e, u, he, hu, rfl⟩ := bind_put_eq_some h
      exact (ih hu).escape (e := ['u', a, b, c, d]) fun v => by simp [readLines, he]
  | case7 skipping a b c d e f g i s ih =>
      obtain ⟨j, u, hj, hu, rfl⟩ := bind_put_eq_some h
      exact (ih hu).escape (e := ['U', a, b, c, d, e, f, g, i]) fun v => by simp [readLines, hj]
  | case8 skipping c s _ _ _ d hd ih =>
      obtain ⟨u, hu, rfl⟩ := put_eq_some h
      obtain ⟨hx, hu', hU⟩ := escaped?_ne hd
      exact (ih hu).escape (e := [c]) fun v => by simp [readLines, hx, hu', hU, hd]
  | case9 skipping c s _ _ _ hnone hends ih =>
      obtain ⟨w, hs, hlength, hw, hline⟩ := ih h
      refine ⟨'\\' :: w, by rw [hs]; rfl, by simp only [List.length_cons]; omega, ?_, by simp⟩
      intro q hq
      obtain ⟨w, rfl⟩ : ∃ v, w = c :: v := by
        cases w with
        | nil => cases hlength
        | cons d v => exact ⟨v, by rw [(List.cons.inj hs).1]⟩
      have hnot : c ≠ 'x' ∧ c ≠ 'u' ∧ c ≠ 'U' := by
        rcases endsLine_cons hends with rfl | rfl | rfl | rfl <;> decide
      have hskip : endsLine (c :: (w ++ q)) = true := hline rfl hends q
      have hrest : readLines true (c :: (w ++ q)) = some (t, q) := hw q hq
      simp [readLines, hnot, hnone, hskip, hrest]
  | case10 => cases h
  | case11 s ih =>
      obtain ⟨w, rfl, hlength, hw, -⟩ := ih h
      exact ⟨'\r' :: '\n' :: w, rfl, by simp only [List.length_cons]; omega,
        fun q hq => by simp [readLines, hw q hq], by simp⟩
  | case12 skipping s hskipping ih =>
      obtain ⟨v, hv, rfl⟩ := put_eq_some h
      obtain ⟨u, hu, rfl⟩ := put_eq_some hv
      obtain ⟨w, rfl, hlength, hw, -⟩ := ih hu
      exact ⟨'\r' :: '\n' :: w, rfl, by simp only [List.length_cons]; omega,
        fun q hq => by simp [readLines, hskipping, hw q hq], fun hs => absurd hs hskipping⟩
  | case13 skipping c s _ _ _ _ _ _ _ _ hblank ih =>
      obtain ⟨w, rfl, hlength, hw, hline⟩ := ih h
      obtain ⟨rfl, hc⟩ : skipping = true ∧ ((c = ' ' ∨ c = '\t') ∨ c = '\n') := by
        simpa using hblank
      refine ⟨c :: w, rfl, by simp only [List.length_cons]; omega,
        fun q hq => (readLines_skip hc _).trans (hw q hq), fun _ hends q => ?_⟩
      rcases hc with hc | rfl
      · have hblank : (c == ' ' || c == '\t') = true := by simpa using hc
        rw [List.cons_append, endsLine_blank hblank]
        exact hline rfl ((endsLine_blank hblank _).symm.trans hends) q
      · rfl
  | case14 => cases h
  -- A quote stands for itself as long as no two others follow it, which the closing ones rule out for any rest.
  | case15 skipping c s _ _ hquote _ _ _ _ _ hblank hplain ih =>
      obtain ⟨u, hu, rfl⟩ := put_eq_some h
      obtain ⟨w, rfl, hlength, hw, -⟩ := ih hu
      obtain ⟨hcontrol, hslash⟩ : (isControl c && c != '\n') = false ∧ c ≠ '\\' := by
        simpa using hplain
      have hreturn : c ≠ '\r' := by rintro rfl; cases hcontrol
      have hquotes : c = '"' → ¬ ['"', '"'] <+: w ++ r := by
        rintro rfl ⟨u, hu⟩
        exact hquote u rfl hu.symm
      refine ⟨c :: w, rfl, by simp only [List.length_cons]; omega, fun q hq => ?_, ?_⟩
      · rw [List.cons_append, readLines_plain skipping hslash hreturn
          fun hc => not_prefix_append hlength (hquotes hc), if_neg hblank, hcontrol, hw q hq]
        rfl
      · rintro rfl hends
        rcases endsLine_cons hends with rfl | rfl | rfl | rfl <;> simp at hblank hreturn

theorem readLiteralLines_close {r : List Char} (hr : r.head? ≠ some '\'') :
    readLiteralLines ('\'' :: '\'' :: '\'' :: r) = some ([], r) ∧
      readLiteralLines ('\'' :: '\'' :: '\'' :: '\'' :: r) = some (['\''], r) ∧
      readLiteralLines ('\'' :: '\'' :: '\'' :: '\'' :: '\'' :: r) = some (['\'', '\''], r) := by
  cases r with
  | nil => exact ⟨rfl, rfl, rfl⟩
  | cons c r =>
      have hc : c ≠ '\'' := by simpa using hr
      simp [readLiteralLines, hc]

theorem readLiteralLines_plain {c : Char} {s : List Char} (hcontrol : (isControl c && c != '\n') = false)
    (hquotes : c = '\'' → ¬ ['\'', '\''] <+: s) :
    readLiteralLines (c :: s) = put c (readLiteralLines s) := by
  have hnot (u : List Char) (hc : c = '\'') : s ≠ '\'' :: '\'' :: u := by
    rintro rfl
    exact hquotes hc ⟨u, rfl⟩
  have hreturn : c ≠ '\r' := by rintro rfl; cases hcontrol
  rw [readLiteralLines, hcontrol] <;> simp_all

theorem readLiteralLines_local {s t r : List Char} (h : readLiteralLines s = some (t, r)) :
    ∃ w, s = w ++ r ∧ 3 ≤ w.length ∧
      ∀ q, q.head? ≠ some '\'' → readLiteralLines (w ++ q) = some (t, q) := by
  fun_induction readLiteralLines s generalizing t with
  | case1 => cases h
  | case2 s =>
      cases h
      exact ⟨['\'', '\'', '\'', '\'', '\''], rfl, by simp, fun q hq => (readLiteralLines_close hq).2.2⟩
  | case3 s =>
      cases h
      exact ⟨['\'', '\'', '\'', '\''], rfl, by simp, fun q hq => (readLiteralLines_close hq).2.1⟩
  | case4 s =>
      cases h
      exact ⟨['\'', '\'', '\''], rfl, by simp, fun q hq => (readLiteralLines_close hq).1⟩
  | case5 s ih =>
      obtain ⟨v, hv, rfl⟩ := put_eq_some h
      obtain ⟨u, hu, rfl⟩ := put_eq_some hv
      obtain ⟨w, rfl, hlength, hw⟩ := ih hu
      exact ⟨'\r' :: '\n' :: w, rfl, by simp only [List.length_cons]; omega,
        fun q hq => by simp [readLiteralLines, hw q hq]⟩
  | case6 => cases h
  | case7 c s _ _ hquote _ hplain ih =>
      obtain ⟨u, hu, rfl⟩ := put_eq_some h
      obtain ⟨w, rfl, hlength, hw⟩ := ih hu
      have hcontrol : (isControl c && c != '\n') = false := by simpa using hplain
      have hquotes : c = '\'' → ¬ ['\'', '\''] <+: w ++ r := by
        rintro rfl ⟨u, hu⟩
        exact hquote u rfl hu.symm
      refine ⟨c :: w, rfl, by simp only [List.length_cons]; omega, fun q hq => ?_⟩
      rw [List.cons_append, readLiteralLines_plain hcontrol
        fun hc => not_prefix_append hlength (hquotes hc), hw q hq, put_some]

theorem dropLineEnd_of_head {s : List Char} (hline : s.head? ≠ some '\n')
    (hreturn : s.head? ≠ some '\r') : dropLineEnd s = s := by
  unfold dropLineEnd
  split
  · exact absurd rfl hline
  · exact absurd rfl hreturn
  · rfl

theorem dropLineEnd_local {s w r : List Char} (h : dropLineEnd s = w ++ r) (hlength : 3 ≤ w.length) :
    ∃ v, s = v ++ r ∧ 3 ≤ v.length ∧ ∀ q, dropLineEnd (v ++ q) = w ++ q := by
  unfold dropLineEnd at h
  split at h
  · subst h
    exact ⟨'\n' :: w, rfl, by simp only [List.length_cons]; omega, fun _ => rfl⟩
  · subst h
    exact ⟨'\r' :: '\n' :: w, rfl, by simp only [List.length_cons]; omega, fun _ => rfl⟩
  · rename_i hline hreturn
    subst h
    match w, hlength with
    | a :: b :: w, hlength =>
        refine ⟨a :: b :: w, rfl, hlength, fun q => ?_⟩
        have hline : a ≠ '\n' := by rintro rfl; exact hline _ rfl
        have hreturn : a = '\r' → b ≠ '\n' := by rintro rfl rfl; exact hreturn _ rfl
        simp only [dropLineEnd, List.cons_append]
        split <;> simp_all

def opensString (s : List Char) : Prop :=
  s.head? = some '"' ∨ s.head? = some '\''

theorem read?_basic {s : List Char} (h : ¬ ['"', '"'] <+: s) : read? ('"' :: s) = readBasic s := by
  unfold read?
  split
  · rename_i u heq
    cases heq
    exact absurd ⟨u, rfl⟩ h
  · rename_i heq
    cases heq
  · rename_i heq
    cases heq
    rfl
  · rename_i heq
    cases heq
  · rename_i hnot _
    exact absurd rfl (hnot s)

theorem read?_literal {s : List Char} (h : ¬ ['\'', '\''] <+: s) :
    read? ('\'' :: s) = readLiteral s := by
  unfold read?
  split
  · rename_i heq
    cases heq
  · rename_i u heq
    cases heq
    exact absurd ⟨u, rfl⟩ h
  · rename_i heq
    cases heq
  · rename_i heq
    cases heq
    rfl
  · rename_i hnot
    exact absurd rfl (hnot s)

/-- A string that ends with the first quote is no beginning of three quotes. -/
theorem not_two_quotes {c : Char} {w t q : List Char} {read : List Char → Option (List Char × List Char)}
    (hclose : ∀ s, read (c :: s) = some ([], s)) (hne : w ≠ [])
    (hw : ∀ q, read (w ++ q) = some (t, q)) (hq : q.head? ≠ some c) : ¬ [c, c] <+: w ++ q := by
  rintro ⟨u, hu⟩
  cases w with
  | nil => exact hne rfl
  | cons a w =>
      obtain ⟨rfl, hrest⟩ : a = c ∧ w ++ q = c :: u := by simpa [eq_comm] using hu
      have hread := hw q
      rw [List.cons_append, hclose, Option.some.injEq, Prod.mk.injEq] at hread
      obtain rfl : w = [] := by simpa using hread.2
      exact hq (by simpa using congrArg List.head? hrest)

/-- What was read as a string is read from the same characters, if no other quote stands behind them. -/
theorem read?_local {s t r : List Char} (h : read? s = some (t, r)) :
    ∃ w, s = w ++ r ∧ opensString w ∧ ∀ q, Unquoted q → read? (w ++ q) = some (t, q) := by
  unfold read? at h
  split at h
  · obtain ⟨w, hs, hlength, hw, -⟩ := readLines_local h
    obtain ⟨v, rfl, -, hv⟩ := dropLineEnd_local hs hlength
    exact ⟨'"' :: '"' :: '"' :: v, rfl, .inl rfl, fun q hq => by simp [read?, hv, hw q hq.1]⟩
  · obtain ⟨w, hs, hlength, hw⟩ := readLiteralLines_local h
    obtain ⟨v, rfl, -, hv⟩ := dropLineEnd_local hs hlength
    exact ⟨'\'' :: '\'' :: '\'' :: v, rfl, .inr rfl, fun q hq => by simp [read?, hv, hw q hq.2]⟩
  · obtain ⟨w, rfl, hne, hw⟩ := readBasic_local h
    have hclose (s : List Char) : readBasic ('"' :: s) = some ([], s) := by simp [readBasic]
    exact ⟨'"' :: w, rfl, .inl rfl, fun q hq =>
      (read?_basic (not_two_quotes hclose hne hw hq.1)).trans (hw q)⟩
  · obtain ⟨w, rfl, hne, hw⟩ := readLiteral_local h
    have hclose (s : List Char) : readLiteral ('\'' :: s) = some ([], s) := by simp [readLiteral]
    exact ⟨'\'' :: w, rfl, .inr rfl, fun q hq =>
      (read?_literal (not_two_quotes hclose hne hw hq.2)).trans (hw q)⟩
  · cases h

theorem charOf?_hexDigits : ∀ n < 128,
    charOf? ['0', '0', hexDigit (n / 16), hexDigit (n % 16)] = some (Char.ofNat n) := by
  decide

theorem escape_cases (c : Char) :
    (∃ l, escape c = ['\\', l] ∧ escaped? l = some c) ∨
    (∃ a b, escape c = ['\\', 'u', '0', '0', a, b] ∧ charOf? ['0', '0', a, b] = some c) ∨
    (escape c = [c] ∧ c ≠ '"' ∧ c ≠ '\\' ∧ isControl c = false) := by
  unfold escape
  split
  · exact .inl ⟨'"', rfl, by simp [escaped?, *]⟩
  split
  · exact .inl ⟨'\\', rfl, by simp [escaped?, *]⟩
  split
  · exact .inl ⟨'b', rfl, by simp [escaped?, *]⟩
  split
  · exact .inl ⟨'t', rfl, by simp [escaped?, *]⟩
  split
  · exact .inl ⟨'n', rfl, by simp [escaped?, *]⟩
  split
  · exact .inl ⟨'f', rfl, by simp [escaped?, *]⟩
  split
  · exact .inl ⟨'r', rfl, by simp [escaped?, *]⟩
  split
  · rename_i hcontrol
    refine .inr (.inl ⟨_, _, rfl, ?_⟩)
    have hsmall : c.toNat < 128 := by
      simp only [isControl, Bool.or_eq_true, Bool.and_eq_true, decide_eq_true_eq, beq_iff_eq] at hcontrol
      omega
    rw [charOf?_hexDigits _ hsmall, Char.ofNat_toNat]
  · rename_i hquote hslash _ _ _ _ _ hcontrol
    exact .inr (.inr ⟨rfl, hquote, hslash, by simpa using hcontrol⟩)

theorem readBasic_escape (c : Char) (s : List Char) :
    readBasic (escape c ++ s) = put c (readBasic s) := by
  rcases escape_cases c with ⟨l, hl, hc⟩ | ⟨a, b, hab, hc⟩ | ⟨hself, hquote, hslash, hcontrol⟩
  · obtain ⟨hx, hu, hU⟩ := escaped?_ne hc
    simp [hl, readBasic, hx, hu, hU, hc]
  · simp [hab, readBasic, hc]
  · rw [hself]
    exact readBasic_plain hquote hslash hcontrol s

theorem readBasic_flatMap_escape (s q : List Char) :
    readBasic (s.flatMap escape ++ '"' :: q) = some (s, q) := by
  induction s with
  | nil => simp [readBasic]
  | cons c s ih => rw [List.flatMap_cons, List.append_assoc, readBasic_escape, ih, put_some]

theorem readLiteral_append {s : List Char} (hquote : '\'' ∉ s) (hcontrol : ∀ c ∈ s, isControl c = false)
    (q : List Char) : readLiteral (s ++ '\'' :: q) = some (s, q) := by
  induction s with
  | nil => simp [readLiteral]
  | cons c s ih =>
      simp only [List.mem_cons, not_or, forall_eq_or_imp] at hquote hcontrol
      rw [List.cons_append, readLiteral_plain (Ne.symm hquote.1) hcontrol.1, ih hquote.2 hcontrol.2,
        put_some]

theorem readLines_escape {c : Char} (hline : c ≠ '\n') (s : List Char) :
    readLines false (escape c ++ s) = put c (readLines false s) := by
  rcases escape_cases c with ⟨l, hl, hc⟩ | ⟨a, b, hab, hc⟩ | ⟨hself, hquote, hslash, hcontrol⟩
  · obtain ⟨hx, hu, hU⟩ := escaped?_ne hc
    simp [hl, readLines, hx, hu, hU, hc]
  · simp [hab, readLines, hc]
  · have hreturn : c ≠ '\r' := by rintro rfl; cases hcontrol
    rw [hself, List.singleton_append, readLines_plain false hslash hreturn fun hc => absurd hc hquote]
    simp [hcontrol]

theorem readLines_quotes {x t q : List Char} (hx : x.head? ≠ some '"')
    (hread : readLines false x = some (t, q)) {k : Nat} (hk : k ≤ 2) :
    readLines false (List.replicate k '"' ++ x) = some (List.replicate k '"' ++ t, q) := by
  have hone : readLines false ('"' :: x) = some ('"' :: t, q) := by
    rw [readLines_plain false (by decide) (by decide), hread]
    · rfl
    · rintro - ⟨u, rfl⟩
      exact hx rfl
  match k, hk with
  | 0, _ => exact hread
  | 1, _ => exact hone
  | 2, _ =>
      change readLines false ('"' :: '"' :: x) = some ('"' :: '"' :: t, q)
      rw [readLines_plain false (by decide) (by decide), hone]
      · rfl
      · rintro - ⟨u, hu⟩
        obtain rfl : '"' :: u = x := by simpa using hu
        exact hx rfl

theorem escape_head (c : Char) (s : List Char) : (escape c ++ s).head? ≠ some '"' := by
  rcases escape_cases c with ⟨l, hl, -⟩ | ⟨a, b, hab, -⟩ | ⟨hself, hquote, -⟩
  · simp [hl]
  · simp [hab]
  · simpa [hself] using hquote

/-- The text that is read behind quotes that are not escaped: these count together with those that the text
begins with. -/
theorem readLines_escapeLines (s : List Char) {k : Nat} (hk : k ≤ 2) {q : List Char}
    (hq : q.head? ≠ some '"') :
    readLines false (List.replicate k '"' ++ (escapeLines k s ++ '"' :: '"' :: '"' :: q)) =
      some (List.replicate k '"' ++ s, q) := by
  induction s generalizing k with
  | nil =>
      obtain ⟨hthree, hfour, hfive⟩ := readLines_close hq false
      match k, hk with
      | 0, _ => exact hthree
      | 1, _ => exact hfour
      | 2, _ => exact hfive
  | cons c s ih =>
      have hnone := ih (Nat.zero_le 2)
      simp only [List.replicate_zero, List.nil_append] at hnone
      rw [escapeLines]
      split
      · rename_i hc
        subst hc
        split
        · rename_i hk
          have hnext := ih (k := k + 1) hk
          simpa [List.replicate_succ'] using hnext
        · refine readLines_quotes (by simp) ?_ hk
          simp [readLines, escaped?, hnone]
      · rename_i hquote
        split
        · rename_i hline
          subst hline
          refine readLines_quotes (by simp) ?_ hk
          simp [readLines, isControl, hnone]
        · rename_i hline
          rw [List.append_assoc]
          refine readLines_quotes (escape_head c _) ?_ hk
          rw [readLines_escape hline, hnone, put_some]

theorem le_longestRun (c : Char) (k : Nat) (s : List Char) : k ≤ longestRun c k s := by
  induction s generalizing k with
  | nil => exact Nat.le_refl k
  | cons d s ih =>
      rw [longestRun]
      split
      · exact Nat.le_trans (Nat.le_succ k) (ih (k + 1))
      · exact Nat.le_max_left ..

theorem not_mem_of_longestRun {c : Char} {s : List Char} (h : longestRun c 0 s = 0) : c ∉ s := by
  induction s with
  | nil => exact List.not_mem_nil
  | cons d s ih =>
      rw [longestRun] at h
      split at h
      · exact absurd (le_longestRun c (0 + 1) s) (by omega)
      · rename_i hd
        simp only [List.mem_cons, not_or]
        exact ⟨Ne.symm hd, ih (by omega)⟩

theorem readLiteralLines_quotes {x t q : List Char} (hx : x.head? ≠ some '\'')
    (hread : readLiteralLines x = some (t, q)) {k : Nat} (hk : k ≤ 2) :
    readLiteralLines (List.replicate k '\'' ++ x) = some (List.replicate k '\'' ++ t, q) := by
  have hone : readLiteralLines ('\'' :: x) = some ('\'' :: t, q) := by
    rw [readLiteralLines_plain (by decide), hread, put_some]
    rintro - ⟨u, rfl⟩
    exact hx rfl
  match k, hk with
  | 0, _ => exact hread
  | 1, _ => exact hone
  | 2, _ =>
      change readLiteralLines ('\'' :: '\'' :: x) = some ('\'' :: '\'' :: t, q)
      rw [readLiteralLines_plain (by decide), hone, put_some]
      rintro - ⟨u, hu⟩
      obtain rfl : '\'' :: u = x := by simpa using hu
      exact hx rfl

theorem readLiteralLines_append {s : List Char} (hcontrol : ∀ c ∈ s, (isControl c && c != '\n') = false)
    {k : Nat} (hruns : longestRun '\'' k s ≤ 2) {q : List Char} (hq : q.head? ≠ some '\'') :
    readLiteralLines (List.replicate k '\'' ++ (s ++ '\'' :: '\'' :: '\'' :: q)) =
      some (List.replicate k '\'' ++ s, q) := by
  have hk : k ≤ 2 := Nat.le_trans (le_longestRun ..) hruns
  induction s generalizing k with
  | nil =>
      obtain ⟨hthree, hfour, hfive⟩ := readLiteralLines_close hq
      match k, hk with
      | 0, _ => exact hthree
      | 1, _ => exact hfour
      | 2, _ => exact hfive
  | cons c s ih =>
      simp only [List.mem_cons, forall_eq_or_imp] at hcontrol
      rw [longestRun] at hruns
      split at hruns
      · rename_i hc
        subst hc
        have hnext := ih hcontrol.2 hruns (Nat.le_trans (le_longestRun ..) hruns)
        simpa [List.replicate_succ'] using hnext
      · rename_i hc
        have hnone := ih hcontrol.2 (k := 0) (by omega) (Nat.zero_le 2)
        simp only [List.replicate_zero, List.nil_append] at hnone
        refine readLiteralLines_quotes (by simpa using hc) ?_ hk
        rw [List.cons_append, readLiteralLines_plain hcontrol.1 fun h => absurd h hc, hnone, put_some]

theorem isControl_of_needsEscape {s : List Char} (h : needsEscape s = false) :
    ∀ c ∈ s, (isControl c && c != '\n') = false := by
  simpa [needsEscape] using h

theorem read?_escape (s : List Char) {q : List Char} (hq : Unquoted q) :
    read? ('"' :: (s.flatMap escape ++ '"' :: q)) = some (s, q) := by
  rw [read?_basic, readBasic_flatMap_escape]
  rintro ⟨u, hu⟩
  cases s with
  | nil =>
      obtain rfl : '"' :: u = q := by simpa using hu
      exact hq.1 rfl
  | cons c s =>
      rw [List.flatMap_cons, List.append_assoc] at hu
      exact escape_head c _ (by rw [← hu]; rfl)

theorem read?_literal_append {s : List Char} (hquote : '\'' ∉ s)
    (hcontrol : ∀ c ∈ s, isControl c = false) {q : List Char} (hq : Unquoted q) :
    read? ('\'' :: (s ++ '\'' :: q)) = some (s, q) := by
  rw [read?_literal, readLiteral_append hquote hcontrol]
  rintro ⟨u, hu⟩
  cases s with
  | nil =>
      obtain rfl : '\'' :: u = q := by simpa using hu
      exact hq.2 rfl
  | cons c s =>
      obtain ⟨rfl, -⟩ : '\'' = c ∧ _ := by simpa using hu
      exact hquote List.mem_cons_self

theorem dropLineEnd_escapeLines {s : List Char} (hline : '\n' ∉ s) (k : Nat) (q : List Char) :
    dropLineEnd (escapeLines k s ++ '"' :: q) = escapeLines k s ++ '"' :: q := by
  cases s with
  | nil => rfl
  | cons c s =>
      have hc : c ≠ '\n' := fun h => hline (h ▸ List.mem_cons_self)
      rw [escapeLines, if_neg hc]
      split
      · split <;> exact dropLineEnd_of_head (by simp) (by simp)
      · rcases escape_cases c with ⟨l, hl, -⟩ | ⟨a, b, hab, -⟩ | ⟨hself, -, -, hcontrol⟩
        · exact dropLineEnd_of_head (by simp [hl]) (by simp [hl])
        · exact dropLineEnd_of_head (by simp [hab]) (by simp [hab])
        · have hreturn : c ≠ '\r' := by rintro rfl; cases hcontrol
          exact dropLineEnd_of_head (by simpa [hself] using hc) (by simpa [hself] using hreturn)

theorem read?_escapeLines {s : List Char} {q : List Char} (hq : Unquoted q) :
    read? ('"' :: '"' :: '"' :: '\n' :: (escapeLines 0 s ++ '"' :: '"' :: '"' :: q)) = some (s, q) ∧
      ('\n' ∉ s →
        read? ('"' :: '"' :: '"' :: (escapeLines 0 s ++ '"' :: '"' :: '"' :: q)) = some (s, q)) := by
  have hread := readLines_escapeLines s (Nat.zero_le 2) hq.1
  refine ⟨hread, fun hline => ?_⟩
  rw [← dropLineEnd_escapeLines hline] at hread
  exact hread

theorem read?_literalLines {s : List Char} (hcontrol : ∀ c ∈ s, (isControl c && c != '\n') = false)
    (hruns : longestRun '\'' 0 s ≤ 2) {q : List Char} (hq : Unquoted q) :
    read? ('\'' :: '\'' :: '\'' :: '\n' :: (s ++ '\'' :: '\'' :: '\'' :: q)) = some (s, q) ∧
      ('\n' ∉ s → read? ('\'' :: '\'' :: '\'' :: (s ++ '\'' :: '\'' :: '\'' :: q)) = some (s, q)) := by
  have hread := readLiteralLines_append hcontrol hruns hq.2
  refine ⟨hread, fun hline => ?_⟩
  have hdrop : dropLineEnd (s ++ '\'' :: '\'' :: '\'' :: q) = s ++ '\'' :: '\'' :: '\'' :: q := by
    cases s with
    | nil => rfl
    | cons c s =>
        simp only [List.mem_cons, not_or, forall_eq_or_imp] at hline hcontrol
        have hreturn : c ≠ '\r' := by rintro rfl; cases hcontrol.1
        exact dropLineEnd_of_head (by simpa using Ne.symm hline.1) (by simpa using hreturn)
  change readLiteralLines (dropLineEnd _) = _
  rw [hdrop]
  exact hread

/-- Every text is read back from its written form, if no quote stands behind it. -/
theorem read?_write (s : List Char) {q : List Char} (hq : Unquoted q) :
    read? (write s ++ q) = some (s, q) := by
  have hcontrols (h : needsEscape s = false) := isControl_of_needsEscape h
  unfold write
  simp only [Bool.and_eq_true, Bool.not_eq_true', decide_eq_true_eq, List.contains_eq_mem,
    decide_eq_false_iff_not]
  split
  · simpa using read?_escape s hq
  split
  · rename_i h
    obtain ⟨⟨hneeds, hsingles⟩, hline⟩ := h
    have hplain : ∀ c ∈ s, isControl c = false := by
      intro c hc
      have hctl := hcontrols hneeds c hc
      have hne : c ≠ '\n' := fun h => hline (h ▸ hc)
      simpa [hne] using hctl
    simpa using read?_literal_append (not_mem_of_longestRun hsingles) hplain hq
  split
  · by_cases hline : '\n' ∈ s
    · simpa [hline] using (read?_escapeLines hq).1
    · simpa [hline] using (read?_escapeLines hq).2 hline
  split
  · rename_i h
    have hread := read?_literalLines (hcontrols h.1) h.2 hq
    by_cases hline : '\n' ∈ s
    · simpa [hline] using hread.1
    · simpa [hline] using hread.2 hline
  split
  · simpa using (read?_escapeLines hq).1
  · simpa using read?_escape s hq

end ServerLink.Toml.Quoted
