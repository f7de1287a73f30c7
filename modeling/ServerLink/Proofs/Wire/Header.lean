import ServerLink.Proofs.Text.Blank
import ServerLink.Proofs.Text.Utf8
import ServerLink.Wire.Frame

namespace ServerLink

namespace Text

theorem Utf8.lineFeed_notMem_encode {s : List Char} (h : '\n' ∉ s) : 10 ∉ encode s :=
  notMem_encode (by decide) h

end Text

namespace Wire

open ServerLink.Text

theorem takeLine_of_notMem {s : List UInt8} (h : 10 ∉ s) : takeLine s = (s, []) := by
  induction s with
  | nil => rfl
  | cons b s ih =>
      have hb : b ≠ 10 := fun hb => h (hb ▸ List.mem_cons_self)
      simp [takeLine, hb, ih fun hs => h (List.mem_cons_of_mem _ hs)]

theorem takeLine_append_of_notMem {s : List UInt8} (h : 10 ∉ s) (rest : List UInt8) :
    takeLine (s ++ 10 :: rest) = (s ++ [10], rest) := by
  induction s with
  | nil => simp [takeLine]
  | cons b s ih =>
      have hb : b ≠ 10 := fun hb => h (hb ▸ List.mem_cons_self)
      simp [takeLine, hb, ih fun hs => h (List.mem_cons_of_mem _ hs)]

/-- What a line of a header block that is whole, and UTF-8, leads to. -/
theorem readHeaders_line (given : Option Nat) {line : List Char} (h : '\n' ∉ line) (rest : List UInt8) :
    readHeaders given (Utf8.encode (line ++ ['\n']) ++ rest) =
      match HeaderLine.ofText (line ++ ['\n']) with
      | .blank => (.ok given, rest)
      | .other => readHeaders given rest
      | .length value =>
          match lengthOf? value with
          | none => (.error (.invalidContentLength (String.ofList value)), rest)
          | some n => readHeaders (some n) rest := by
  have hbytes : Utf8.encode (line ++ ['\n']) ++ rest = Utf8.encode line ++ 10 :: rest := by
    have hend : Utf8.encode ['\n'] = [10] := rfl
    rw [Utf8.encode_append, hend, List.append_assoc]
    rfl
  have hdecode : Utf8.decode (Utf8.encode line ++ [10]) = some (line ++ ['\n']) := by
    have hend : Utf8.encode ['\n'] = [10] := rfl
    rw [← hend, ← Utf8.encode_append]
    exact Utf8.decode_encode _
  have htake := takeLine_append_of_notMem (Utf8.lineFeed_notMem_encode h) rest
  rw [hbytes, readHeaders, dif_neg (by simp)]
  cases hkind : HeaderLine.ofText (line ++ ['\n']) with
  | blank | other => simp only [htake, hdecode, hkind]
  | length value => cases hlength : lengthOf? value <;> simp only [htake, hdecode, hkind, hlength]

/-- A header block that breaks off inside a line: the line may end the block without its line feed, and
otherwise nothing comes of it. -/
theorem readHeaders_of_notMem (length : Option Nat) {s : List UInt8} (h : 10 ∉ s) :
    readHeaders length s = (.ok length, []) ∨ ∃ e, readHeaders length s = (.error e, []) := by
  have hnil (other : Option Nat) : readHeaders other [] = (.error .truncatedHeaders, []) := by
    rw [readHeaders, dif_pos rfl]
  by_cases hs : s = []
  · subst hs
    exact .inr ⟨_, hnil length⟩
  · rw [readHeaders, dif_neg hs]
    simp only [takeLine_of_notMem h]
    split
    · exact .inr ⟨_, rfl⟩
    · split
      · exact .inl rfl
      · exact .inr ⟨_, hnil length⟩
      · split
        · exact .inr ⟨_, rfl⟩
        · exact .inr ⟨_, hnil _⟩

def lengthHeader (length : Nat) : List Char :=
  contentLength ++ ':' :: ' ' :: Decimal.digits length

theorem headerBlock_eq (length : Nat) :
    headerBlock length = Utf8.encode (lengthHeader length ++ ['\r']) ++ 10 :: [13, 10] := by
  have hend : Utf8.encode ['\r', '\n', '\r', '\n'] = Utf8.encode ['\r'] ++ 10 :: [13, 10] := rfl
  change Utf8.encode (lengthHeader length ++ _) = _
  rw [Utf8.encode_append, Utf8.encode_append, hend, List.append_assoc]

theorem lineFeed_notMem_lengthHeader (length : Nat) : '\n' ∉ lengthHeader length ++ ['\r'] := by
  have hname : '\n' ∉ contentLength := by decide
  have hdigits : '\n' ∉ Decimal.digits length := by
    intro hmem
    exact absurd (Decimal.isDigit_of_mem_digits hmem) (by decide)
  simp [lengthHeader, hname, hdigits]

theorem trim_lengthHeader (length : Nat) :
    trim (lengthHeader length ++ ['\r', '\n']) = lengthHeader length := by
  obtain ⟨front, last, hlast⟩ := (List.eq_nil_or_concat (Decimal.digits length)).resolve_left
    (Decimal.digits_ne_nil length)
  have hdigit : isBlank last = false :=
    not_isBlank_of_isDigit (Decimal.isDigit_of_mem_digits (n := length) (by simp [hlast]))
  have hends : ∀ c ∈ ['\r', '\n'], isBlank c = true := by
    intro c hc
    simp only [List.mem_cons, List.not_mem_nil, or_false] at hc
    rcases hc with rfl | rfl <;> rfl
  have hstart : trimStart (lengthHeader length ++ ['\r', '\n']) =
      lengthHeader length ++ ['\r', '\n'] :=
    trimStart_cons_of_not_isBlank (c := 'C') (by decide) _
  have hheader : lengthHeader length = (contentLength ++ ':' :: ' ' :: front) ++ [last] := by
    simp [lengthHeader, hlast]
  rw [trim, hstart, trimEnd_append_of_blank hends, hheader,
    trimEnd_concat_of_not_isBlank hdigit]

theorem trim_digits (length : Nat) : trim (' ' :: Decimal.digits length) = Decimal.digits length := by
  obtain ⟨first, digits, hfirst⟩ := List.exists_cons_of_ne_nil (Decimal.digits_ne_nil length)
  obtain ⟨front, last, hlast⟩ := (List.eq_nil_or_concat (Decimal.digits length)).resolve_left
    (Decimal.digits_ne_nil length)
  have hfirst' : isBlank first = false :=
    not_isBlank_of_isDigit (Decimal.isDigit_of_mem_digits (n := length) (by simp [hfirst]))
  have hlast' : isBlank last = false :=
    not_isBlank_of_isDigit (Decimal.isDigit_of_mem_digits (n := length) (by simp [hlast]))
  have hspace : ∀ c ∈ [' '], isBlank c = true := by
    intro c hc
    rw [List.mem_singleton.mp hc]
    rfl
  change trimEnd (trimStart ([' '] ++ Decimal.digits length)) = _
  rw [trimStart_append_of_blank hspace, hfirst, trimStart_cons_of_not_isBlank hfirst', ← hfirst,
    hlast, List.concat_eq_append, trimEnd_concat_of_not_isBlank hlast']

theorem ofText_lengthHeader (length : Nat) :
    HeaderLine.ofText (lengthHeader length ++ ['\r', '\n']) = .length (Decimal.digits length) := by
  have hcolon : ':' ∉ contentLength := by decide
  have hname : isContentLength contentLength = true := by decide
  have hsplit : splitOnce ':' (lengthHeader length) =
      some (contentLength, ' ' :: Decimal.digits length) := splitOnce_append hcolon _
  have hfull : (lengthHeader length).isEmpty = false := rfl
  simp only [HeaderLine.ofText, trim_lengthHeader, hfull, hsplit, hname, trim_digits]
  simp

theorem readHeaders_lengthHeader (given : Option Nat) {length : Nat} (h : length < lengthBound)
    (rest : List UInt8) :
    readHeaders given (Utf8.encode (lengthHeader length ++ ['\r']) ++ 10 :: rest) =
      readHeaders (some length) rest := by
  have hbytes : Utf8.encode (lengthHeader length ++ ['\r']) ++ 10 :: rest =
      Utf8.encode (lengthHeader length ++ ['\r'] ++ ['\n']) ++ rest := by
    have hend : Utf8.encode ['\n'] = [10] := rfl
    rw [Utf8.encode_append (_ ++ _), hend, List.append_assoc _ [10]]
    rfl
  have hlength : lengthOf? (Decimal.digits length) = some length := Decimal.readBelow?_digits h
  have htext : HeaderLine.ofText (lengthHeader length ++ ['\r'] ++ ['\n']) =
      .length (Decimal.digits length) := by
    rw [List.append_assoc]
    exact ofText_lengthHeader length
  rw [hbytes, readHeaders_line given (lineFeed_notMem_lengthHeader length), htext]
  simp only [hlength]

theorem readHeaders_headerBlock {length : Nat} (h : length < lengthBound) (rest : List UInt8) :
    readHeaders none (headerBlock length ++ rest) = (.ok (some length), rest) := by
  have hblank : HeaderLine.ofText (['\r'] ++ ['\n']) = .blank := by decide
  have hfeed : '\n' ∉ ['\r'] := by decide
  have hend := readHeaders_line (some length) hfeed rest
  rw [headerBlock_eq, List.append_assoc, List.cons_append, readHeaders_lengthHeader none h]
  exact hend.trans (by rw [hblank])

end Wire

end ServerLink
