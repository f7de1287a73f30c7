import ServerLink.Proofs.Text.Blank
import ServerLink.Proofs.Text.Span

namespace ServerLink.Text

variable {s t w rest : List Char} {parts : List (List Char)}

/-- A word: characters of which none is blank. -/
structure IsWord (w : List Char) : Prop where
  ne_nil : w ≠ []
  not_blank : ∀ c ∈ w, isBlank c = false

theorem isWord_iff : IsWord w ↔ w ≠ [] ∧ w.all (fun c => !isBlank c) = true := by
  constructor
  · intro h
    refine ⟨h.ne_nil, List.all_eq_true.mpr ?_⟩
    intro c hc
    rw [h.not_blank c hc, Bool.not_false]
  · rintro ⟨hne, hall⟩
    refine ⟨hne, ?_⟩
    intro c hc
    simpa using List.all_eq_true.mp hall c hc

-- Decided by a test of the characters of the word, since a statement on all characters may be decided by trying
-- each one that there is.
instance (w : List Char) : Decidable (IsWord w) :=
  decidable_of_iff _ isWord_iff.symm

/-- A text at neither end of which a blank stands. -/
structure IsTrimmed (s : List Char) : Prop where
  first : ∀ c ∈ s.head?, isBlank c = false
  last : ∀ c ∈ s.getLast?, isBlank c = false

def words (s : List Char) : List (List Char) :=
  (s.splitOnP isBlank).filter fun w => !w.isEmpty

/-- A text begins with a word, blanks in front of it aside, and goes on with the rest. -/
structure Headed (s w rest : List Char) : Prop where
  word : IsWord w
  apart : ∀ c ∈ rest.head?, isBlank c = true
  gap : ∃ gap, (∀ c ∈ gap, isBlank c = true) ∧ s = gap ++ (w ++ rest)

/-- A text is written in parts: they stand in it in their order, with any blanks around them, and where anything
follows a part, there is a blank in between. -/
inductive Spaced : List (List Char) → List Char → Prop where
  | nil {gap : List Char} (hgap : ∀ c ∈ gap, isBlank c = true) : Spaced [] gap
  | cons {gap part rest : List Char} {parts : List (List Char)} (hgap : ∀ c ∈ gap, isBlank c = true)
      (hapart : ∀ c ∈ rest.head?, isBlank c = true) (hrest : Spaced parts rest) :
      Spaced (part :: parts) (gap ++ (part ++ rest))

theorem isTrimmed_trim (s : List Char) : IsTrimmed (trim s) := by
  refine ⟨?_, last_trimEnd (trimStart s)⟩
  intro c hc
  obtain ⟨b, -, hb⟩ := exists_of_trimEnd (trimStart s)
  apply first_trimStart s
  rw [hb, ← trim, List.head?_append, Option.mem_def.mp hc]
  rfl

theorem IsTrimmed.trim_eq (h : IsTrimmed s) : trim s = s := by
  have hstart : trimStart s = s := by
    rcases s with _ | ⟨c, s⟩
    · rfl
    · exact trimStart_cons_of_not_isBlank (h.first c rfl) s
  rw [trim, hstart]
  rcases List.eq_nil_or_concat s with rfl | ⟨t, c, rfl⟩
  · rfl
  · rw [List.concat_eq_append] at h ⊢
    exact trimEnd_concat_of_not_isBlank (h.last c (by simp)) t

theorem trim_eq_nil_iff : trim s = [] ↔ ∀ c ∈ s, isBlank c = true := by
  constructor
  · intro h
    obtain ⟨a, b, ha, hb, hs⟩ := exists_of_trim s
    rw [h, List.append_nil] at hs
    rw [hs]
    exact List.forall_mem_append.mpr ⟨ha, hb⟩
  · exact trim_of_blank

theorem trim_cons_of_blank {c : Char} (hc : isBlank c = true) (s : List Char) : trim (c :: s) = trim s :=
  trim_blank_append (List.forall_mem_singleton.mpr hc) s

theorem trimEnd_of_blank (h : ∀ c ∈ s, isBlank c = true) : trimEnd s = [] := by
  simpa using trimEnd_append_of_blank h []

/-- A blank in front of a text is trimmed from its end only with the whole of the text. -/
theorem trimEnd_cons_of_blank {c : Char} (hc : isBlank c = true) (s : List Char) :
    trimEnd (c :: s) = if trim s = [] then [] else c :: trimEnd s := by
  split
  · rename_i hblank
    apply trimEnd_of_blank
    exact List.forall_mem_cons.mpr ⟨hc, trim_eq_nil_iff.mp hblank⟩
  · rename_i hfull
    rw [trim_eq_nil_iff] at hfull
    push Not at hfull
    obtain ⟨d, hmem, hd⟩ := hfull
    obtain ⟨a, b, rfl⟩ := List.append_of_mem hmem
    have hd : isBlank d = false := by simpa using hd
    rw [← List.cons_append, trimEnd_append_cons hd, trimEnd_append_cons hd, List.cons_append]

theorem trim_word_append (hw : IsWord w) (s : List Char) : trim (w ++ s) = w ++ trimEnd s := by
  have hstart : trimStart (w ++ s) = w ++ s := by
    rcases w with _ | ⟨c, w⟩
    · exact absurd rfl hw.ne_nil
    · exact trimStart_cons_of_not_isBlank (hw.not_blank c (by simp)) _
  rw [trim, hstart]
  rcases List.eq_nil_or_concat w with rfl | ⟨t, c, rfl⟩
  · exact absurd rfl hw.ne_nil
  · have hc : isBlank c = false := hw.not_blank c (by simp)
    rw [List.concat_eq_append, List.append_assoc, List.append_assoc]
    exact trimEnd_append_cons hc t s

theorem words_of_blank (h : ∀ c ∈ s, isBlank c = true) : words s = [] := by
  induction s with
  | nil => rfl
  | cons c s ih =>
      obtain ⟨hc, hs⟩ := List.forall_mem_cons.mp h
      simpa [words, List.splitOnP_cons_eq_if_modifyHead, hc] using ih hs

theorem words_blank_append {gap : List Char} (h : ∀ c ∈ gap, isBlank c = true) (s : List Char) :
    words (gap ++ s) = words s := by
  induction gap with
  | nil => rfl
  | cons c gap ih =>
      obtain ⟨hc, hgap⟩ := List.forall_mem_cons.mp h
      simpa [words, List.splitOnP_cons_eq_if_modifyHead, hc] using ih hgap

theorem words_append (hw : IsWord w) (hrest : ∀ c ∈ rest.head?, isBlank c = true) :
    words (w ++ rest) = w :: words rest := by
  rcases rest with _ | ⟨c, rest⟩
  · simp [words, List.splitOnP_eq_singleton hw.not_blank, hw.ne_nil]
  · have hc : isBlank c = true := hrest c rfl
    have hgap : ∀ d ∈ [c], isBlank d = true := List.forall_mem_singleton.mpr hc
    have hskip : words (c :: rest) = words rest := words_blank_append hgap rest
    rw [hskip]
    simp [words, List.splitOnP_append_cons_of_forall_mem hw.not_blank c hc, hw.ne_nil]

theorem blank_or_headed (s : List Char) :
    (∀ c ∈ s, isBlank c = true) ∨ ∃ w rest, Headed s w rest := by
  obtain ⟨gap, hgap, hs⟩ := exists_of_trimStart s
  rcases hstart : trimStart s with _ | ⟨c, core⟩
  · left
    rw [hs, hstart, List.append_nil]
    exact hgap
  · right
    have hc : isBlank c = false := first_trimStart s c (by simp [hstart])
    rw [hstart] at hs
    obtain ⟨w, rest, hspan⟩ : ∃ w rest, (c :: core).span (fun d => !isBlank d) = (w, rest) := ⟨_, _, rfl⟩
    obtain ⟨hcore, hword, hrest⟩ := of_span hspan
    refine ⟨w, rest, ⟨?_, ?_⟩, ?_, gap, hgap, hcore ▸ hs⟩
    · rintro rfl
      have hblank := hrest c (by rw [← List.nil_append rest, ← hcore]; rfl)
      simp [hc] at hblank
    · intro d hd
      simpa using hword d hd
    · intro d hd
      simpa using hrest d hd

namespace Headed

theorem trim_eq (h : Headed s w rest) : trim s = w ++ trimEnd rest := by
  obtain ⟨gap, hgap, rfl⟩ := h.gap
  rw [trim_blank_append hgap, trim_word_append h.word]

theorem words_eq (h : Headed s w rest) : words s = w :: words rest := by
  obtain ⟨gap, hgap, rfl⟩ := h.gap
  rw [words_blank_append hgap, words_append h.word h.apart]

theorem trim_tail (h : Headed s w rest) : trim (trimEnd rest.tail) = trim rest := by
  rw [trim_trimEnd]
  rcases rest with _ | ⟨c, rest⟩
  · rfl
  · exact (trim_cons_of_blank (h.apart c rfl) rest).symm

theorem spaced (h : Headed s w rest) (hrest : Spaced parts rest) : Spaced (w :: parts) s := by
  obtain ⟨gap, hgap, rfl⟩ := h.gap
  exact .cons hgap h.apart hrest

end Headed

theorem words_eq_nil_iff : words s = [] ↔ trim s = [] := by
  rw [trim_eq_nil_iff]
  constructor
  · intro hnil
    rcases blank_or_headed s with hblank | ⟨w, rest, h⟩
    · exact hblank
    · exact absurd (h.words_eq ▸ hnil) (List.cons_ne_nil w _)
  · exact words_of_blank

theorem Spaced.headed (h : Spaced (w :: parts) s) (hw : IsWord w) :
    ∃ rest, Headed s w rest ∧ Spaced parts rest := by
  rcases h with _ | ⟨hgap, hapart, hrest⟩
  exact ⟨_, ⟨hw, hapart, _, hgap, rfl⟩, hrest⟩

theorem Spaced.trim_eq (h : Spaced [t] s) (ht : IsTrimmed t) : trim s = t := by
  rcases h with _ | ⟨hgap, -, hrest⟩
  rcases hrest with ⟨hending⟩
  rw [trim_blank_append hgap, trim_append_of_blank hending, ht.trim_eq]

theorem spaced_trim (s : List Char) : Spaced [trim s] s := by
  obtain ⟨a, b, ha, hb, hs⟩ := exists_of_trim s
  have hspaced : Spaced [trim s] (a ++ (trim s ++ b)) := by
    refine .cons ha ?_ (.nil hb)
    intro c hc
    exact hb c (List.mem_of_head? hc)
  rwa [← List.append_assoc, ← hs] at hspaced

end ServerLink.Text
