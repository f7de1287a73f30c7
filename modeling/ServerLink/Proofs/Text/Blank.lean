import Mathlib.Data.List.TakeDrop
import ServerLink.Text.Blank

namespace ServerLink.Text

variable {s a b : List Char}

theorem not_isBlank_of_isDigit {c : Char} (h : c.isDigit = true) : isBlank c = false := by
  simp only [Char.isDigit, Bool.and_eq_true, decide_eq_true_eq] at h
  have hlow : 48 ≤ c.toNat := UInt32.le_iff_toNat_le.mp h.1
  have hhigh : c.toNat ≤ 57 := UInt32.le_iff_toNat_le.mp h.2
  simp [isBlank]
  omega

theorem exists_of_trimStart (s : List Char) :
    ∃ a, (∀ c ∈ a, isBlank c = true) ∧ s = a ++ trimStart s :=
  ⟨s.takeWhile isBlank, List.all_eq_true.mp List.all_takeWhile, List.takeWhile_append_dropWhile.symm⟩

theorem exists_of_trimEnd (s : List Char) :
    ∃ b, (∀ c ∈ b, isBlank c = true) ∧ s = trimEnd s ++ b := by
  obtain ⟨a, ha, hs⟩ := exists_of_trimStart s.reverse
  refine ⟨a.reverse, fun c hc => ha c (List.mem_reverse.mp hc), ?_⟩
  have hs := congrArg List.reverse hs
  rwa [List.reverse_reverse, List.reverse_append] at hs

theorem trimStart_of_blank (h : ∀ c ∈ s, isBlank c = true) : trimStart s = [] := by
  simpa using trimStart_append_of_blank h []

theorem trim_of_blank (h : ∀ c ∈ s, isBlank c = true) : trim s = [] := by
  rw [trim, trimStart_of_blank h, trimEnd_nil]

theorem trim_of_not_blank (h : ∀ c ∈ s, isBlank c = false) : trim s = s := by
  rcases List.eq_nil_or_concat s with rfl | ⟨t, last, rfl⟩
  · rfl
  · have hlast : isBlank last = false := h last (by simp)
    have hstart : trimStart (t.concat last) = t.concat last := by
      cases t with
      | nil => exact trimStart_cons_of_not_isBlank hlast []
      | cons first t => exact trimStart_cons_of_not_isBlank (h first (by simp)) _
    rw [trim, hstart, List.concat_eq_append, trimEnd_concat_of_not_isBlank hlast]

theorem first_trimStart (s : List Char) : ∀ c ∈ (trimStart s).head?, isBlank c = false := by
  intro c hc
  have hnot := List.head?_dropWhile_not isBlank s
  rw [← trimStart, Option.mem_def.mp hc] at hnot
  exact hnot

theorem last_trimEnd (s : List Char) : ∀ c ∈ (trimEnd s).getLast?, isBlank c = false := by
  intro c hc
  rw [trimEnd, List.getLast?_reverse] at hc
  exact first_trimStart s.reverse c hc

theorem trimEnd_append_cons {c : Char} (hc : isBlank c = false) (a b : List Char) :
    trimEnd (a ++ c :: b) = a ++ c :: trimEnd b := by
  obtain ⟨ending, hending, hb⟩ := exists_of_trimEnd b
  conv_lhs => rw [hb, ← List.cons_append, ← List.append_assoc, trimEnd_append_of_blank hending]
  rcases List.eq_nil_or_concat (trimEnd b) with hlast | ⟨t, d, hlast⟩
  · rw [hlast]
    exact trimEnd_concat_of_not_isBlank hc a
  · have hd : isBlank d = false := last_trimEnd b d (by simp [hlast])
    rw [hlast, List.concat_eq_append, ← List.cons_append, ← List.append_assoc]
    exact trimEnd_concat_of_not_isBlank hd _

theorem trim_append_cons {c : Char} (hc : isBlank c = false) (a b : List Char) :
    trim (a ++ c :: b) = trimStart a ++ c :: trimEnd b := by
  obtain ⟨blanks, hblanks, ha⟩ := exists_of_trimStart a
  have hstart : trimStart (a ++ c :: b) = trimStart a ++ c :: b := by
    conv_lhs => rw [ha, List.append_assoc, trimStart_append_of_blank hblanks]
    rcases hfirst : trimStart a with _ | ⟨d, t⟩
    · exact trimStart_cons_of_not_isBlank hc b
    · have hd : isBlank d = false := first_trimStart a d (by simp [hfirst])
      exact trimStart_cons_of_not_isBlank hd _
  rw [trim, hstart, trimEnd_append_cons hc]

theorem trim_append_of_blank (hb : ∀ c ∈ b, isBlank c = true) (s : List Char) :
    trim (s ++ b) = trim s := by
  by_cases hs : ∀ c ∈ s, isBlank c = true
  · rw [trim_of_blank hs, trim_of_blank (List.forall_mem_append.mpr ⟨hs, hb⟩)]
  · push Not at hs
    obtain ⟨c, hmem, hc⟩ := hs
    obtain ⟨a, d, rfl⟩ := List.append_of_mem hmem
    have hc : isBlank c = false := by simpa using hc
    rw [List.append_assoc, List.cons_append, trim_append_cons hc, trim_append_cons hc,
      trimEnd_append_of_blank hb]

theorem trim_blank_append (ha : ∀ c ∈ a, isBlank c = true) (s : List Char) :
    trim (a ++ s) = trim s := by
  rw [trim, trim, trimStart_append_of_blank ha]

theorem exists_of_trim (s : List Char) : ∃ a b, (∀ c ∈ a, isBlank c = true) ∧
    (∀ c ∈ b, isBlank c = true) ∧ s = a ++ trim s ++ b := by
  obtain ⟨a, ha, hs⟩ := exists_of_trimStart s
  obtain ⟨b, hb, hrest⟩ := exists_of_trimEnd (trimStart s)
  refine ⟨a, b, ha, hb, ?_⟩
  rw [trim, List.append_assoc, ← hrest]
  exact hs

theorem trim_trimStart (s : List Char) : trim (trimStart s) = trim s := by
  obtain ⟨a, ha, hs⟩ := exists_of_trimStart s
  conv_rhs => rw [hs, trim_blank_append ha]

theorem trim_trimEnd (s : List Char) : trim (trimEnd s) = trim s := by
  obtain ⟨b, hb, hs⟩ := exists_of_trimEnd s
  conv_rhs => rw [hs, trim_append_of_blank hb]

end ServerLink.Text
