import ServerLink.Proofs.Text.Span
import ServerLink.Proofs.Toml.Quoted
import ServerLink.Proofs.Toml.Scalar
import ServerLink.Toml.Reader

namespace ServerLink.Toml

open Quoted (put put_eq_some put_some)

/-- A text that begins with no space, no comment and no end of a line. -/
def Solid (s : List Char) : Prop :=
  ∀ c ∈ s.head?, isLineSpace c = false ∧ c ≠ '#' ∧ c ≠ '\n' ∧ c ≠ '\r'

/-- Space within a line. -/
def Blank (s : List Char) : Prop :=
  ∀ c ∈ s, isLineSpace c = true

/-- Space, comments and ends of lines after which no comment is open. -/
def IsGap (g : List Char) : Prop :=
  ∀ s, readGap false (g ++ s) = (readGap false s).map fun p => (g ++ p.1, p.2)

/-- What may stand behind what a line says. -/
def EndsLine (a : List Char) : Prop :=
  ∀ s, readLineEnd false (a ++ '\n' :: s) = some (a, s)

/-- A text that goes on with no value. -/
structure Follows (s : List Char) : Prop where
  unquoted : Quoted.Unquoted s
  closes : Scalar.Closes s

theorem blank_nil : Blank [] := nofun

theorem isLineSpace_iff {c : Char} : isLineSpace c = true ↔ c = ' ' ∨ c = '\t' := by
  simp [isLineSpace]

theorem of_splitSpace {s b r : List Char} (h : splitSpace s = (b, r)) :
    s = b ++ r ∧ Blank b ∧ ∀ c ∈ r.head?, isLineSpace c = false :=
  Text.of_span h

theorem splitSpace_append {b r : List Char} (hb : Blank b)
    (hr : ∀ c ∈ r.head?, isLineSpace c = false) : splitSpace (b ++ r) = (b, r) :=
  Text.span_append hb hr

theorem readGap_cons {c : Char} (hline : c ≠ '\n') (hreturn : c ≠ '\r') (comment : Bool)
    (s : List Char) :
    readGap comment (c :: s) =
      if comment then if Quoted.isControl c then none else put c (readGap true s)
      else if isLineSpace c then put c (readGap false s)
      else if c = '#' then put c (readGap true s)
      else some ([], c :: s) := by
  rw [readGap] <;> simp_all

theorem readGap_solid {s : List Char} (h : Solid s) : readGap false s = some ([], s) := by
  cases s with
  | nil => rfl
  | cons c s =>
      obtain ⟨hspace, hhash, hline, hreturn⟩ := h c rfl
      rw [readGap_cons hline hreturn]
      simp [hspace, hhash]

theorem put_map {c : Char} {g : List Char} (x : Option (List Char × List Char)) :
    put c (x.map fun p => (g ++ p.1, p.2)) = x.map fun p => (c :: g ++ p.1, p.2) := by
  cases x <;> rfl

theorem ne_of_not_isControl {c : Char} (h : Quoted.isControl c = false) : c ≠ '\n' ∧ c ≠ '\r' := by
  constructor <;>
  · rintro rfl
    cases h

theorem ne_of_isLineSpace {c : Char} (h : isLineSpace c = true) : c ≠ '\n' ∧ c ≠ '\r' := by
  rcases isLineSpace_iff.mp h with rfl | rfl <;> decide

/-- A gap that was read is read again, and what stood behind it did not matter. -/
theorem readGap_local {comment : Bool} {s g r : List Char} (h : readGap comment s = some (g, r)) :
    readGap comment g = some (g, []) ∧
      (r ≠ [] → ∀ q, readGap comment (g ++ q) = (readGap false q).map fun p => (g ++ p.1, p.2)) := by
  fun_induction readGap comment s generalizing g with
  | case1 =>
      cases h
      exact ⟨by rw [readGap], fun hr => absurd rfl hr⟩
  | case2 comment s ih =>
      obtain ⟨u, hu, rfl⟩ := put_eq_some h
      obtain ⟨hagain, hlocal⟩ := ih hu
      exact ⟨by simp [readGap, hagain], fun hr q => by simp [readGap, hlocal hr q, put_map]⟩
  | case3 comment s ih =>
      obtain ⟨u, hu, rfl⟩ := put_eq_some h
      obtain ⟨hagain, hlocal⟩ := ih hu
      exact ⟨by simp [readGap, hagain], fun hr q => by simp [readGap, hlocal hr q, put_map]⟩
  | case4 => cases h
  | case5 c s hline hreturn hcontrol ih =>
      obtain ⟨u, hu, rfl⟩ := put_eq_some h
      obtain ⟨hagain, hlocal⟩ := ih hu
      have hplain : Quoted.isControl c = false := by simpa using hcontrol
      obtain ⟨hline, hreturn⟩ := ne_of_not_isControl hplain
      refine ⟨by simp [readGap_cons hline hreturn, hplain, hagain], fun hr q => ?_⟩
      simp [readGap_cons hline hreturn, hplain, hlocal hr q, put_map]
  | case6 comment c s _ _ hcomment hspace ih =>
      obtain ⟨u, hu, rfl⟩ := put_eq_some h
      obtain ⟨hagain, hlocal⟩ := ih hu
      obtain ⟨hline, hreturn⟩ := ne_of_isLineSpace hspace
      refine ⟨by simp [readGap_cons hline hreturn, hcomment, hspace, hagain], fun hr q => ?_⟩
      simp [readGap_cons hline hreturn, hcomment, hspace, hlocal hr q, put_map]
  | case7 comment s hcomment _ _ hspace ih =>
      obtain ⟨u, hu, rfl⟩ := put_eq_some h
      obtain ⟨hagain, hlocal⟩ := ih hu
      obtain rfl : comment = false := by simpa using hcomment
      have hcons (u : List Char) : readGap false ('#' :: u) = put '#' (readGap true u) :=
        (readGap_cons (by decide) (by decide) false u).trans rfl
      exact ⟨by simp [hcons, hagain], fun hr q => by simp [hcons, hlocal hr q, put_map]⟩
  | case8 comment c s _ _ hcomment =>
      cases h
      obtain rfl : comment = false := by simpa using hcomment
      exact ⟨by rw [readGap], fun _ q => by simp⟩

theorem isGap_of_readGap {s g r : List Char} (h : readGap false s = some (g, r)) (hr : r ≠ []) :
    IsGap g :=
  (readGap_local h).2 hr

theorem isGap_nil : IsGap [] := fun s => by simp

theorem IsGap.append {g d : List Char} (hg : IsGap g) (hd : IsGap d) : IsGap (g ++ d) := by
  intro s
  rw [List.append_assoc, hg, hd, Option.map_map]
  congr 1
  funext p
  simp

theorem Blank.isGap {b : List Char} (hb : Blank b) : IsGap b := by
  induction b with
  | nil => exact isGap_nil
  | cons c b ih =>
      intro s
      have hspace := hb c List.mem_cons_self
      obtain ⟨hline, hreturn⟩ := ne_of_isLineSpace hspace
      have hrest := ih (fun d hd => hb d (List.mem_cons_of_mem c hd)) s
      rw [List.cons_append, readGap_cons hline hreturn]
      simp [hspace, hrest, put_map]

theorem IsGap.readGap {g : List Char} (hg : IsGap g) {s : List Char} (hs : Solid s) :
    readGap false (g ++ s) = some (g, s) := by
  rw [hg, readGap_solid hs]
  simp

theorem readLineEnd_cons {c : Char} (hline : c ≠ '\n') (hreturn : c ≠ '\r') (comment : Bool)
    (s : List Char) :
    readLineEnd comment (c :: s) =
      if comment then if Quoted.isControl c then none else put c (readLineEnd true s)
      else if isLineSpace c then put c (readLineEnd false s)
      else if c = '#' then put c (readLineEnd true s)
      else none := by
  rw [readLineEnd] <;> simp_all

theorem readLineEnd_local {comment : Bool} {s a r : List Char}
    (h : readLineEnd comment s = some (a, r)) (q : List Char) :
    readLineEnd comment (a ++ '\n' :: q) = some (a, q) := by
  fun_induction readLineEnd comment s generalizing a with
  | case1 | case2 | case3 =>
      cases h
      simp [readLineEnd]
  | case4 => cases h
  | case5 c s _ _ hcontrol ih =>
      obtain ⟨u, hu, rfl⟩ := put_eq_some h
      have hplain : Quoted.isControl c = false := by simpa using hcontrol
      obtain ⟨hline, hreturn⟩ := ne_of_not_isControl hplain
      simp [readLineEnd_cons hline hreturn, hplain, ih hu]
  | case6 comment c s _ _ hcomment hspace ih =>
      obtain ⟨u, hu, rfl⟩ := put_eq_some h
      obtain ⟨hline, hreturn⟩ := ne_of_isLineSpace hspace
      simp [readLineEnd_cons hline hreturn, hcomment, hspace, ih hu]
  | case7 comment s hcomment _ _ hspace ih =>
      obtain ⟨u, hu, rfl⟩ := put_eq_some h
      obtain rfl : comment = false := by simpa using hcomment
      rw [List.cons_append, readLineEnd_cons (by decide) (by decide), ih hu]
      rfl
  | case8 => cases h

theorem endsLine_of_readLineEnd {s a r : List Char} (h : readLineEnd false s = some (a, r)) :
    EndsLine a :=
  readLineEnd_local h

theorem endsLine_nil : EndsLine [] := fun _ => rfl

def mayFollow (c : Char) : Bool :=
  isLineSpace c || c == '#' || c == '\n' || c == '\r' || c == ',' || c == ']' || c == '\x7d'

theorem mayFollow_iff {c : Char} : mayFollow c = true ↔
    c = ' ' ∨ c = '\t' ∨ c = '#' ∨ c = '\n' ∨ c = '\r' ∨ c = ',' ∨ c = ']' ∨ c = '\x7d' := by
  simp [mayFollow, isLineSpace, or_assoc]

theorem ne_of_mayFollow {c : Char} (h : mayFollow c = true) :
    (c ≠ '"' ∧ c ≠ '\'') ∧ Scalar.isWordChar c = false ∧ c.isDigit = false := by
  rcases mayFollow_iff.mp h with rfl | rfl | rfl | rfl | rfl | rfl | rfl | rfl <;> decide

theorem follows_of {s : List Char} (hhead : ∀ c ∈ s.head?, mayFollow c = true)
    (hnext : ∀ c t, s = ' ' :: c :: t → mayFollow c = true) : Follows s where
  unquoted := by
    constructor <;>
    · intro h
      have hc := ne_of_mayFollow (hhead _ h)
      simp at hc
  closes := ⟨fun c hc => (ne_of_mayFollow (hhead c hc)).2.1,
    fun c t hs => (ne_of_mayFollow (hnext c t hs)).2.2⟩

theorem mayFollow_of_readLineEnd {c : Char} {s : List Char} {p : List Char × List Char}
    (h : readLineEnd false (c :: s) = some p) : mayFollow c = true := by
  by_cases hline : c = '\n'
  · simp [mayFollow, hline]
  by_cases hreturn : c = '\r'
  · simp [mayFollow, hreturn]
  rw [readLineEnd_cons hline hreturn] at h
  by_cases hspace : isLineSpace c = true
  · simp [mayFollow, hspace]
  by_cases hhash : c = '#'
  · simp [mayFollow, hhash]
  simp [hspace, hhash] at h

theorem EndsLine.follows {a : List Char} (ha : EndsLine a) (s : List Char) :
    Follows (a ++ '\n' :: s) := by
  have hread := ha s
  refine follows_of ?_ ?_
  · intro c hc
    cases htext : a ++ '\n' :: s with
    | nil =>
        rw [htext] at hc
        cases hc
    | cons d t =>
        rw [htext] at hread hc
        cases hc
        exact mayFollow_of_readLineEnd hread
  · intro c t htext
    rw [htext, readLineEnd_cons (by decide) (by decide)] at hread
    obtain ⟨u, hu, -⟩ := put_eq_some hread
    exact mayFollow_of_readLineEnd hu

theorem mayFollow_of_readGap {c d : Char} {s t g : List Char}
    (h : readGap false (d :: t) = some (g, c :: s)) (hc : mayFollow c = true) :
    mayFollow d = true := by
  by_cases hline : d = '\n'
  · simp [mayFollow, hline]
  by_cases hreturn : d = '\r'
  · simp [mayFollow, hreturn]
  rw [readGap_cons hline hreturn] at h
  by_cases hspace : isLineSpace d = true
  · simp [mayFollow, hspace]
  by_cases hhash : d = '#'
  · simp [mayFollow, hhash]
  obtain ⟨-, rfl, -⟩ : _ ∧ d = c ∧ t = s := by simpa [hspace, hhash] using h
  exact hc

theorem IsGap.follows {g : List Char} (hg : IsGap g) {c : Char} (hc : c = ',' ∨ c = ']' ∨ c = '\x7d')
    (s : List Char) : Follows (g ++ c :: s) := by
  have hmay : mayFollow c = true := by rcases hc with rfl | rfl | rfl <;> rfl
  have hsolid : Solid (c :: s) := by
    rintro d ⟨⟩
    rcases hc with rfl | rfl | rfl <;> decide
  have hread := hg.readGap hsolid
  refine follows_of ?_ ?_
  · intro d hd
    cases htext : g ++ c :: s with
    | nil =>
        rw [htext] at hd
        cases hd
    | cons e t =>
        rw [htext] at hread hd
        cases hd
        exact mayFollow_of_readGap hread hmay
  · intro d t htext
    rw [htext, readGap_cons (by decide) (by decide)] at hread
    obtain ⟨u, hu, -⟩ := put_eq_some hread
    exact mayFollow_of_readGap hu hmay

end ServerLink.Toml
