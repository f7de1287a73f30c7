import Mathlib.Logic.Relation
import ServerLink.Proofs.Decimal.Natural
import ServerLink.Proofs.Text.Blank
import ServerLink.Proofs.Wire.Stream

/-!
Header blocks of any lines. What reading a frame comes to is decided by the lines that give a length: the first
of them whose value is none is reported, and otherwise the last one counts. Other lines, and how a length is
written, are of no consequence.
-/

namespace ServerLink.Wire

open ServerLink.Text

/-- The value of a line that gives a length: one with a colon, in front of which stands the name of the length
header, but for blanks around it and the case of its letters. -/
def lengthValue? (line : List Char) : Option (List Char) :=
  match splitOnce ':' line with
  | none => none
  | some (name, value) =>
      if (trim name).map Char.toLower = contentLength.map Char.toLower then some (trim value) else none

/-- A value that is a length. -/
def IsLength (value : List Char) : Prop :=
  ∃ n, Decimal.Denotes value n ∧ n < UInt64.size

theorem lengthOf?_eq_some_iff {value : List Char} {n : Nat} :
    lengthOf? value = some n ↔ Decimal.Denotes value n ∧ n < UInt64.size :=
  Decimal.readBelow?_eq_some_iff

theorem isLength_iff {value : List Char} : IsLength value ↔ ∃ n, lengthOf? value = some n := by
  simp only [IsLength, lengthOf?_eq_some_iff]

theorem toLower_of_not_capital {c : Char} (h : ¬('A' ≤ c ∧ c ≤ 'Z')) : c.toLower = c :=
  dif_neg h

theorem lowerAscii_eq_toLower : lowerAscii = Char.toLower := by
  funext c
  unfold lowerAscii
  split
  · rename_i h
    have hval : c.toLower.val = c.val + 32 := congrArg Char.val (dif_pos h)
    have hhigh : c.toNat ≤ 90 := UInt32.le_iff_toNat_le.mp h.2
    have hlower : c.toLower.toNat = c.toNat + 32 := by
      change c.toLower.val.toNat = c.val.toNat + 32
      rw [hval, UInt32.toNat_add, Nat.mod_eq_of_lt]
      · rfl
      · change c.toNat + 32 < _
        omega
    rw [← hlower, Char.ofNat_toNat]
  · rename_i h
    exact (toLower_of_not_capital h).symm

theorem trim_concat_lineFeed (line : List Char) : trim (line ++ ['\n']) = trim line :=
  trim_append_of_blank (List.forall_mem_singleton.mpr rfl) line

theorem ofText_of_trim_ne {line : List Char} (h : trim line ≠ []) :
    HeaderLine.ofText (line ++ ['\n']) =
      match lengthValue? line with
      | none => .other
      | some value => .length value := by
  have hfull : (trim line).isEmpty = false := List.isEmpty_eq_false_iff.mpr h
  simp only [HeaderLine.ofText, trim_concat_lineFeed, hfull, Bool.false_eq_true, if_false]
  unfold lengthValue?
  cases hsplit : splitOnce ':' line with
  | none =>
      have hcolon : ':' ∉ line := splitOnce_eq_none_iff.mp hsplit
      have hnone : splitOnce ':' (trim line) = none := by
        refine splitOnce_eq_none_iff.mpr fun hmem => hcolon ?_
        obtain ⟨a, -, ha⟩ := exists_of_trimStart line
        obtain ⟨b, -, hb⟩ := exists_of_trimEnd (trimStart line)
        rw [ha, hb]
        exact List.mem_append_right _ (List.mem_append_left _ hmem)
      rw [hnone]
  | some parts =>
      obtain ⟨name, value⟩ := parts
      obtain ⟨rfl, hcolon⟩ := eq_append_of_splitOnce hsplit
      have hname : ':' ∉ trimStart name := by
        obtain ⟨a, -, ha⟩ := exists_of_trimStart name
        rw [ha] at hcolon
        exact fun hmem => hcolon (List.mem_append_right _ hmem)
      rw [trim_append_cons (by decide), splitOnce_append hname]
      simp only [isContentLength, trim_trimStart, trim_trimEnd, lowerAscii_eq_toLower, beq_iff_eq]
      split <;> rfl

/-- A header block: lines of which none is blank, and the blank line that ends it. -/
structure HeaderBlock where
  lines : List (List Char)
  last : List Char
  lines_feed : ∀ line ∈ lines, '\n' ∉ line
  lines_full : ∀ line ∈ lines, trim line ≠ []
  last_feed : '\n' ∉ last
  last_blank : trim last = []

def encodeLines (lines : List (List Char)) : List UInt8 :=
  Utf8.encode (lines.flatMap (· ++ ['\n']))

namespace HeaderBlock

/-- The values of the length lines of a block. -/
def values (b : HeaderBlock) : List (List Char) :=
  b.lines.filterMap lengthValue?

def bytes (b : HeaderBlock) : List UInt8 :=
  encodeLines b.lines ++ Utf8.encode (b.last ++ ['\n'])

/-- The bytes of a block whose blank line ends with the stream. -/
def unfinished (b : HeaderBlock) : List UInt8 :=
  encodeLines b.lines ++ Utf8.encode b.last

end HeaderBlock

/-- What values rule, in their order: the first that is no length, or the last length. -/
def ruling (given : Option Nat) : List (List Char) → Except (List Char) (Option Nat)
  | [] => .ok given
  | value :: values =>
      match lengthOf? value with
      | none => .error value
      | some n => ruling (some n) values

theorem readHeaders_lines (given : Option Nat) {lines : List (List Char)}
    (hfeed : ∀ line ∈ lines, '\n' ∉ line) (hfull : ∀ line ∈ lines, trim line ≠ [])
    (rest : List UInt8) :
    (∀ value, ruling given (lines.filterMap lengthValue?) = .error value →
      (readHeaders given (encodeLines lines ++ rest)).1 =
        .error (.invalidContentLength (String.ofList value))) ∧
    ∀ length, ruling given (lines.filterMap lengthValue?) = .ok length →
      readHeaders given (encodeLines lines ++ rest) = readHeaders length rest := by
  induction lines generalizing given with
  | nil =>
      refine ⟨nofun, ?_⟩
      rintro length ⟨⟩
      rfl
  | cons line lines ih =>
      have hline := readHeaders_line given (hfeed line List.mem_cons_self) (encodeLines lines ++ rest)
      rw [ofText_of_trim_ne (hfull line List.mem_cons_self)] at hline
      have hbytes : encodeLines (line :: lines) ++ rest =
          Utf8.encode (line ++ ['\n']) ++ (encodeLines lines ++ rest) := by
        simp [encodeLines]
      have hrest (length : Option Nat) := ih length (fun l hl => hfeed l (List.mem_cons_of_mem _ hl))
        fun l hl => hfull l (List.mem_cons_of_mem _ hl)
      rw [hbytes, hline]
      cases hvalue : lengthValue? line with
      | none =>
          rw [List.filterMap_cons_none hvalue]
          exact hrest given
      | some value =>
          rw [List.filterMap_cons_some hvalue]
          cases hlength : lengthOf? value with
          | none =>
              simp only [ruling, hlength]
              refine ⟨?_, nofun⟩
              rintro _ ⟨⟩
              rfl
          | some n =>
              simp only [ruling, hlength]
              exact hrest (some n)

theorem readHeaders_last (b : HeaderBlock) (given : Option Nat) (rest : List UInt8) :
    readHeaders given (Utf8.encode (b.last ++ ['\n']) ++ rest) = (.ok given, rest) := by
  have hblank : trim (b.last ++ ['\n']) = [] := (trim_concat_lineFeed b.last).trans b.last_blank
  rw [readHeaders_line given b.last_feed]
  simp [HeaderLine.ofText, hblank]

theorem encode_ne_nil {s : List Char} (h : s ≠ []) : Utf8.encode s ≠ [] := by
  intro hnil
  have hdecode := Utf8.decode_encode s
  rw [hnil, Utf8.decode_nil, Option.some.injEq] at hdecode
  exact h hdecode.symm

theorem readHeaders_last_unfinished (b : HeaderBlock) (hne : b.last ≠ []) (given : Option Nat) :
    readHeaders given (Utf8.encode b.last) = (.ok given, []) := by
  have hblank : HeaderLine.ofText b.last = .blank := by
    simp [HeaderLine.ofText, b.last_blank]
  rw [readHeaders, dif_neg (encode_ne_nil hne)]
  simp only [takeLine_of_notMem (Utf8.lineFeed_notMem_encode b.last_feed), Utf8.decode_encode, hblank]

def readingOf (body : List UInt8) : Reading :=
  match Json.readBytes? body with
  | some j => .frame j
  | none => .error .malformedBody

theorem readBody_of_le {n : Nat} {s : List UInt8} (h : n ≤ s.length) :
    readBody n s = (readingOf (s.take n), s.drop n) := by
  rw [readBody, if_pos h, readingOf]
  cases Json.readBytes? (s.take n) <;> rfl

/-- What a length in a block leads to. -/
def readLength (rest : List UInt8) : Option Nat → Reading × List UInt8
  | none => (.error .missingContentLength, rest)
  | some n => if n ≤ maxBody then readBody n rest else (.error (.frameTooLarge n), rest)

theorem readFrame_of_readHeaders {s rest : List UInt8} (hs : s ≠ []) {length : Option Nat}
    (h : readHeaders none s = (.ok length, rest)) : readFrame s = readLength rest length := by
  have hfull : s.isEmpty = false := by simpa using hs
  cases length <;> simp only [readFrame, hfull, h, readLength, Bool.false_eq_true, if_false]

theorem readFrame_of_error {s : List UInt8} (hs : s ≠ []) {e : FrameError}
    (h : (readHeaders none s).1 = .error e) : (readFrame s).1 = .error e := by
  have hfull : s.isEmpty = false := by simpa using hs
  rw [readFrame, hfull]
  generalize readHeaders none s = read at h
  obtain ⟨result, rest⟩ := read
  obtain rfl : result = .error e := h
  rfl

namespace HeaderBlock

variable (b : HeaderBlock)

theorem bytes_ne_nil (rest : List UInt8) : b.bytes ++ rest ≠ [] := by
  have hend : Utf8.encode ['\n'] = [10] := rfl
  simp [bytes, hend]

/-- What a block leads to depends on the ruling of its values alone. -/
theorem readFrame_bytes (rest : List UInt8) :
    (∀ value, ruling none b.values = .error value →
      (readFrame (b.bytes ++ rest)).1 = .error (.invalidContentLength (String.ofList value))) ∧
    ∀ length, ruling none b.values = .ok length → readFrame (b.bytes ++ rest) = readLength rest length := by
  have hlines := readHeaders_lines none b.lines_feed b.lines_full (Utf8.encode (b.last ++ ['\n']) ++ rest)
  rw [← List.append_assoc] at hlines
  have hne := b.bytes_ne_nil rest
  refine ⟨fun value hvalue => readFrame_of_error hne (hlines.1 value hvalue), ?_⟩
  intro length hlength
  exact readFrame_of_readHeaders hne ((hlines.2 length hlength).trans (readHeaders_last b length rest))

/-- At the end of the stream the blank line may do without its line feed. -/
theorem readFrame_unfinished (hne : b.last ≠ []) :
    (readFrame b.unfinished).1 = (readFrame b.bytes).1 := by
  have hlines := readHeaders_lines none b.lines_feed b.lines_full (Utf8.encode b.last)
  have hwhole := b.readFrame_bytes []
  rw [List.append_nil] at hwhole
  have hlast : b.unfinished ≠ [] := by
    simp [unfinished, encode_ne_nil hne]
  cases hruling : ruling none b.values with
  | error value => rw [hwhole.1 value hruling, readFrame_of_error hlast (hlines.1 value hruling)]
  | ok length =>
      rw [hwhole.2 length hruling, readFrame_of_readHeaders hlast
        ((hlines.2 length hruling).trans (readHeaders_last_unfinished b hne length))]

end HeaderBlock

theorem ruling_of_not_isLength {before after : List (List Char)} {value : List Char}
    (hbefore : ∀ v ∈ before, IsLength v) (hvalue : ¬ IsLength value) (given : Option Nat) :
    ruling given (before ++ value :: after) = .error value := by
  induction before generalizing given with
  | nil =>
      have hnone : lengthOf? value = none := by
        rw [isLength_iff, ← Option.isSome_iff_exists, Option.not_isSome_iff_eq_none] at hvalue
        exact hvalue
      simp only [List.nil_append, ruling, hnone]
  | cons v before ih =>
      obtain ⟨n, hn⟩ := isLength_iff.mp (hbefore v List.mem_cons_self)
      simp only [List.cons_append, ruling, hn]
      exact ih (fun u hu => hbefore u (List.mem_cons_of_mem _ hu)) (some n)

theorem ruling_append_of_isLength {before : List (List Char)} {value : List Char}
    (hbefore : ∀ v ∈ before, IsLength v) {n : Nat} (hvalue : lengthOf? value = some n)
    (given : Option Nat) : ruling given (before ++ [value]) = .ok (some n) := by
  induction before generalizing given with
  | nil => simp only [List.nil_append, ruling, hvalue]
  | cons v before ih =>
      obtain ⟨m, hm⟩ := isLength_iff.mp (hbefore v List.mem_cons_self)
      simp only [List.cons_append, ruling, hm]
      exact ih (fun u hu => hbefore u (List.mem_cons_of_mem _ hu)) (some m)

/-- What counts of a value: the length that it is, or all of it. -/
def gist (value : List Char) : Except (List Char) Nat :=
  match lengthOf? value with
  | none => .error value
  | some n => .ok n

theorem ruling_of_gist {values others : List (List Char)} (h : values.map gist = others.map gist)
    (given : Option Nat) : ruling given values = ruling given others := by
  induction values generalizing given others with
  | nil =>
      obtain rfl : others = [] := List.map_eq_nil_iff.mp h.symm
      rfl
  | cons value values ih =>
      cases others with
      | nil => cases h
      | cons other others =>
          obtain ⟨hgist, hrest⟩ := List.cons.inj h
          unfold gist at hgist
          cases hvalue : lengthOf? value <;> cases hother : lengthOf? other <;> rw [hvalue, hother] at hgist
          · cases hgist
            simp only [ruling, hvalue]
          · cases hgist
          · cases hgist
          · cases hgist
            simp only [ruling, hvalue, hother]
            exact ih hrest _

/-- How a length line is written around its value: the letters of the name, and the blanks, among which a
carriage return at the end may be. -/
structure Spelling where
  name : List Char
  indent : List Char := []
  gap : List Char := []
  lead : List Char := []
  trail : List Char := []
  isName : name.map Char.toLower = contentLength.map Char.toLower
  blanks : ∀ c ∈ indent ++ gap ++ lead ++ trail, isBlank c = true

def Spelling.line (s : Spelling) (value : List Char) : List Char :=
  s.indent ++ s.name ++ s.gap ++ ':' :: (s.lead ++ value ++ s.trail)

/-- A change of the lines of a block that changes none of the lengths. -/
inductive Retouch : List (List Char) → List (List Char) → Prop where
  /-- A line that gives no length is put in. -/
  | insert (before after : List (List Char)) {line : List Char} (hother : lengthValue? line = none) :
      Retouch (before ++ after) (before ++ line :: after)
  /-- A line that gives no length changes places with the next one. -/
  | swap (before after : List (List Char)) {line : List Char} (next : List Char)
      (hother : lengthValue? line = none) :
      Retouch (before ++ line :: next :: after) (before ++ next :: line :: after)
  /-- A length line is written in another way. -/
  | respell (before after : List (List Char)) (s t : Spelling) (value : List Char) :
      Retouch (before ++ s.line value :: after) (before ++ t.line value :: after)
  /-- Zeros are put in front of the digits of a length. -/
  | pad (before after : List (List Char)) (s : Spelling) {sign zeros digits : List Char}
      (hsign : sign = [] ∨ sign = ['+']) (hzeros : ∀ c ∈ zeros, c = '0') (hne : digits ≠ [])
      (hdigits : ∀ c ∈ digits, c.isDigit = true) (hlength : IsLength (sign ++ digits)) :
      Retouch (before ++ s.line (sign ++ digits) :: after)
        (before ++ s.line (sign ++ (zeros ++ digits)) :: after)

theorem not_isBlank_of_toLower_mem {c : Char} (h : c.toLower ∈ contentLength.map Char.toLower) :
    isBlank c = false := by
  have hname : (contentLength.map Char.toLower).all (fun d => !isBlank d) = true := by decide
  by_contra hblank
  have hsame : c.toLower = c := by
    refine toLower_of_not_capital ?_
    rintro ⟨hlow, hhigh⟩
    have hlow : 65 ≤ c.toNat := UInt32.le_iff_toNat_le.mp hlow
    have hhigh : c.toNat ≤ 90 := UInt32.le_iff_toNat_le.mp hhigh
    apply hblank
    simp [isBlank]
    omega
  rw [← hsame] at hblank
  exact hblank (by simpa using List.all_eq_true.mp hname c.toLower h)

theorem lengthValue?_line (s : Spelling) (value : List Char) :
    lengthValue? (s.line value) = some (trim value) := by
  obtain ⟨name, indent, gap, lead, trail, hname, hblanks⟩ := s
  simp only [List.forall_mem_append] at hblanks
  obtain ⟨⟨⟨hindent, hgap⟩, hlead⟩, htrail⟩ := hblanks
  have hletters : ∀ c ∈ name, c.toLower ∈ contentLength.map Char.toLower := fun c hc =>
    hname ▸ List.mem_map_of_mem hc
  have hcolon : ':' ∉ indent ++ name ++ gap := by
    have hblank {blanks : List Char} (h : ∀ c ∈ blanks, isBlank c = true) : ':' ∉ blanks :=
      fun hmem => absurd (h _ hmem) (by decide)
    have hmem : ':' ∉ name := fun hmem => absurd (hletters _ hmem) (by decide)
    simp [hblank hindent, hblank hgap, hmem]
  have hsplit : splitOnce ':' (Spelling.line ⟨name, indent, gap, lead, trail, hname, hblanks⟩ value) =
      some (indent ++ name ++ gap, lead ++ value ++ trail) := splitOnce_append hcolon _
  have htrim : trim (indent ++ name ++ gap) = name := by
    rw [trim_append_of_blank hgap, trim_blank_append hindent]
    exact trim_of_not_blank fun c hc => not_isBlank_of_toLower_mem (hletters c hc)
  simp only [lengthValue?, hsplit, htrim, hname, if_true, trim_append_of_blank htrail,
    trim_blank_append hlead]

theorem trim_numeral {sign digits : List Char} (hsign : sign = [] ∨ sign = ['+'])
    (hdigits : ∀ c ∈ digits, c.isDigit = true) : trim (sign ++ digits) = sign ++ digits := by
  refine trim_of_not_blank (List.forall_mem_append.mpr ⟨?_, fun c hc => ?_⟩)
  · rcases hsign with rfl | rfl
    · exact nofun
    · exact List.forall_mem_singleton.mpr rfl
  · exact not_isBlank_of_isDigit (hdigits c hc)

theorem lengthOf?_zeros {sign zeros digits : List Char} (hsign : sign = [] ∨ sign = ['+'])
    (hzeros : ∀ c ∈ zeros, c = '0') (hne : digits ≠ []) (hdigits : ∀ c ∈ digits, c.isDigit = true) :
    lengthOf? (sign ++ (zeros ++ digits)) = lengthOf? (sign ++ digits) :=
  Decimal.readBelow?_zeros hzeros hne hdigits lengthBound hsign

theorem Retouch.gists {lines others : List (List Char)} (h : Retouch lines others) :
    (lines.filterMap lengthValue?).map gist = (others.filterMap lengthValue?).map gist := by
  cases h with
  | insert before after hother => simp [List.filterMap_append, List.filterMap_cons_none hother]
  | swap before after next hother =>
      cases hnext : lengthValue? next <;> simp [List.filterMap_append, hother, hnext]
  | respell before after s t value => simp [List.filterMap_append, lengthValue?_line]
  | @pad before after s sign zeros digits hsign hzeros hne hdigits hlength =>
      have hpadded : ∀ c ∈ zeros ++ digits, c.isDigit = true := by
        refine List.forall_mem_append.mpr ⟨fun c hc => ?_, hdigits⟩
        rw [hzeros c hc]
        rfl
      obtain ⟨n, hn⟩ := isLength_iff.mp hlength
      have hsame := lengthOf?_zeros hsign hzeros hne hdigits
      have hgist : gist (sign ++ digits) = gist (sign ++ (zeros ++ digits)) := by
        simp only [gist, hsame, hn]
      simp [List.filterMap_append, lengthValue?_line, trim_numeral hsign hdigits,
        trim_numeral hsign hpadded, hgist]

theorem gists_of_retouches {lines others : List (List Char)} (h : Relation.EqvGen Retouch lines others) :
    (lines.filterMap lengthValue?).map gist = (others.filterMap lengthValue?).map gist := by
  induction h with
  | rel _ _ h => exact h.gists
  | refl => rfl
  | symm _ _ _ ih => exact ih.symm
  | trans _ _ _ _ _ ih ih' => exact ih.trans ih'

theorem HeaderBlock.readFrame_of_length {b : HeaderBlock} (hvalid : ∀ v ∈ b.values, IsLength v)
    {value : List Char} (hlast : b.values.getLast? = some value) {n : Nat}
    (hn : Decimal.Denotes value n) (rest : List UInt8) :
    readFrame (b.bytes ++ rest) = readLength rest (some n) := by
  obtain ⟨before, hvalues⟩ := List.getLast?_eq_some_iff.mp hlast
  have hlength : lengthOf? value = some n := by
    obtain ⟨m, hm, hlt⟩ := hvalid value (by simp [hvalues])
    obtain rfl : m = n := (Decimal.denotes_iff.mp hm).2.symm.trans (Decimal.denotes_iff.mp hn).2
    exact lengthOf?_eq_some_iff.mpr ⟨hm, hlt⟩
  refine (b.readFrame_bytes rest).2 (some n) ?_
  rw [hvalues]
  exact ruling_append_of_isLength (fun v hv => hvalid v (by simp [hvalues, hv])) hlength none

/-- What comes of a header block, whatever is behind it. The first value of a length line that is no length is
reported. Otherwise the last length counts: no body is read if there is none or if it is above the greatest,
and else exactly as many bytes. Other lines may be put in, taken out and moved, and the length lines written in
another way, and nothing changes. Nor does it change whether a value is a length that zeros are put in front of
its digits, or what is read that the stream ends before the last line feed. -/
theorem lengths_decide (b : HeaderBlock) (rest : List UInt8) :
    (∀ before value after, b.values = before ++ value :: after → (∀ v ∈ before, IsLength v) →
      ¬ IsLength value →
      (readFrame (b.bytes ++ rest)).1 = .error (.invalidContentLength (String.ofList value))) ∧
    ((∀ v ∈ b.values, IsLength v) →
      (b.values = [] → readFrame (b.bytes ++ rest) = (.error .missingContentLength, rest)) ∧
      ∀ value n, b.values.getLast? = some value → Decimal.Denotes value n →
        (maxBody < n → readFrame (b.bytes ++ rest) = (.error (.frameTooLarge n), rest)) ∧
        (n ≤ maxBody → n ≤ rest.length →
          readFrame (b.bytes ++ rest) = (readingOf (rest.take n), rest.drop n)) ∧
        (n ≤ maxBody → rest.length < n → readFrame (b.bytes ++ rest) = (.error .bodyCut, []))) ∧
    (∀ other : HeaderBlock, Relation.EqvGen Retouch b.lines other.lines →
      (readFrame (b.bytes ++ rest)).1 = (readFrame (other.bytes ++ rest)).1 ∧
      ((∀ value, (readFrame (b.bytes ++ rest)).1 ≠ .error (.invalidContentLength value)) →
        readFrame (b.bytes ++ rest) = readFrame (other.bytes ++ rest))) ∧
    (∀ sign zeros digits : List Char, sign = [] ∨ sign = ['+'] → (∀ c ∈ zeros, c = '0') → digits ≠ [] →
      (∀ c ∈ digits, c.isDigit = true) →
      (IsLength (sign ++ (zeros ++ digits)) ↔ IsLength (sign ++ digits))) ∧
    (b.last ≠ [] → (readFrame b.unfinished).1 = (readFrame b.bytes).1) := by
  obtain ⟨herror, hok⟩ := b.readFrame_bytes rest
  refine ⟨?_, ?_, ?_, ?_, b.readFrame_unfinished⟩
  · intro before value after hvalues hbefore hvalue
    refine herror value ?_
    rw [hvalues, ruling_of_not_isLength hbefore hvalue]
  · intro hvalid
    constructor
    · intro hnone
      exact hok none (by rw [hnone]; rfl)
    · intro value n hlast hn
      rw [HeaderBlock.readFrame_of_length hvalid hlast hn rest, readLength]
      refine ⟨fun hlarge => if_neg (by omega), fun hsmall hfits => ?_, fun hsmall hcut => ?_⟩
      · rw [if_pos hsmall, readBody_of_le hfits]
      · rw [if_pos hsmall, readBody_of_short hcut]
  · intro other hretouched
    obtain ⟨herror', hok'⟩ := other.readFrame_bytes rest
    -- The rule sees no more of a value than its gist, and that no retouching changes.
    have hsame : ruling none b.values = ruling none other.values :=
      ruling_of_gist (gists_of_retouches hretouched) none
    rw [← hsame] at herror' hok'
    cases hruling : ruling none b.values with
    | error value =>
        have hreported := herror value hruling
        exact ⟨hreported.trans (herror' value hruling).symm, fun hnot => absurd hreported (hnot _)⟩
    | ok length =>
        have hread := (hok length hruling).trans (hok' length hruling).symm
        exact ⟨congrArg Prod.fst hread, fun _ => hread⟩
  · intro sign zeros digits hsign hzeros hne hdigits
    rw [isLength_iff, isLength_iff, lengthOf?_zeros hsign hzeros hne hdigits]

/-- A block with two lengths: 99, and behind it 7 in another way to write it. -/
def twoLengths : HeaderBlock where
  lines := ["Content-Length: 99\r".toList, "X-Note: a:b".toList, "content-LENGTH\t: +007".toList]
  last := ['\r']
  lines_feed := by decide
  lines_full := by decide
  last_feed := by decide
  last_blank := by decide

theorem lengths_decide_last :
    (∀ v ∈ twoLengths.values, IsLength v) ∧ twoLengths.values.getLast? = some ['+', '0', '0', '7'] ∧
      Decimal.Denotes ['+', '0', '0', '7'] 7 ∧
      readFrame (twoLengths.bytes ++ [1, 2, 3]) = (.error .bodyCut, []) := by
  have hvalues : twoLengths.values = [['9', '9'], ['+', '0', '0', '7']] := by decide
  obtain ⟨hnumber, -⟩ : Decimal.Denotes ['+', '0', '0', '7'] 7 ∧ 7 < UInt64.size := lengthOf?_eq_some_iff.mp rfl
  have hlengths : ∀ v ∈ twoLengths.values, IsLength v := by
    rw [hvalues]
    simp only [List.mem_cons, List.not_mem_nil, or_false]
    rintro v (rfl | rfl)
    · exact isLength_iff.mpr ⟨99, rfl⟩
    · exact isLength_iff.mpr ⟨7, rfl⟩
  have hlast : twoLengths.values.getLast? = some ['+', '0', '0', '7'] := by rw [hvalues]; rfl
  obtain ⟨-, hvalid, -⟩ := lengths_decide twoLengths [1, 2, 3]
  exact ⟨hlengths, hlast, hnumber, ((hvalid hlengths).2 _ 7 hlast hnumber).2.2 (by decide) (by decide)⟩

end ServerLink.Wire
