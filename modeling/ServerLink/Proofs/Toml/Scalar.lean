import ServerLink.Proofs.Text.Span
import ServerLink.Toml.Scalar

namespace ServerLink.Toml.Scalar

/-- A text that goes on neither with a word nor with the time behind a date. -/
structure Closes (s : List Char) : Prop where
  word : ∀ c ∈ s.head?, isWordChar c = false
  time : ∀ c t, s = ' ' :: c :: t → c.isDigit = false

theorem isWordChar_of_isDigit {c : Char} (h : c.isDigit = true) : isWordChar c = true := by
  simp [isWordChar, Char.isAlphanum, h]

theorem splitWord_of_span {s w r : List Char} (hspan : s.span isWordChar = (w, r))
    (htime : ∀ c t, r = ' ' :: c :: t → c.isDigit = false) : splitWord s = (w, r) := by
  unfold splitWord
  rw [hspan]
  split
  · rename_i word c t heq
    cases heq
    simp [htime c t rfl]
  · rfl

theorem splitWord_of_date {s date more q : List Char} {c : Char}
    (hspan : s.span isWordChar = (date, ' ' :: c :: (more ++ q))) (hdate : isDate date = true)
    (hdigit : c.isDigit = true) (hmore : ∀ d ∈ c :: more, isWordChar d = true)
    (hq : ∀ d ∈ q.head?, isWordChar d = false) :
    splitWord s = (date ++ ' ' :: c :: more, q) := by
  have htime : (c :: (more ++ q)).span isWordChar = (c :: more, q) := Text.span_append hmore hq
  unfold splitWord
  rw [hspan]
  simp only [hdate, hdigit, Bool.and_self, if_true, htime]

theorem splitWord_local {s w r : List Char} (h : splitWord s = (w, r)) :
    s = w ++ r ∧ (∀ c ∈ w.head?, isWordChar c = true) ∧
      ∀ q, Closes q → splitWord (w ++ q) = (w, q) := by
  have hplain {u t : List Char} (hspan : s.span isWordChar = (u, t)) :
      s = u ++ t ∧ (∀ c ∈ u.head?, isWordChar c = true) ∧
        ∀ q, Closes q → splitWord (u ++ q) = (u, q) := by
    obtain ⟨hs, hword, -⟩ := Text.of_span hspan
    exact ⟨hs, fun c hc => hword c (List.mem_of_head? hc), fun q hq =>
      splitWord_of_span (Text.span_append hword hq.word) hq.time⟩
  unfold splitWord at h
  split at h
  · rename_i date c t hspan
    split at h
    · rename_i hdate
      rw [Bool.and_eq_true] at hdate
      obtain ⟨hdate, hdigit⟩ := hdate
      obtain ⟨rfl, hword, -⟩ := Text.of_span hspan
      cases hmore : (c :: t).span isWordChar with
      | mk more rest =>
          rw [hmore] at h
          obtain ⟨rfl, rfl⟩ : date ++ ' ' :: more = w ∧ rest = r := by simpa using h
          obtain ⟨ht, htime, hrest⟩ := Text.of_span hmore
          obtain ⟨more, rfl⟩ : ∃ u, more = c :: u := by
            cases more with
            | nil =>
                have hc := hrest c (by rw [← List.nil_append rest, ← ht]; rfl)
                rw [isWordChar_of_isDigit hdigit] at hc
                cases hc
            | cons d u => exact ⟨u, by rw [(List.cons.inj ht).1]⟩
          have hstart : ∀ d ∈ (date ++ ' ' :: c :: more).head?, isWordChar d = true := by
            cases date with
            | nil => cases hdate
            | cons d date =>
                intro e he
                exact hword e (List.mem_cons.mpr (.inl (Option.some.inj he).symm))
          refine ⟨by rw [ht]; simp, hstart, fun q hq => ?_⟩
          refine splitWord_of_date ?_ hdate hdigit htime hq.word
          have hspace : ∀ d ∈ (' ' :: c :: (more ++ q)).head?, isWordChar d = false := by
            rintro d ⟨⟩
            rfl
          simpa using Text.span_append hword hspace
    · cases h
      exact hplain hspan
  · exact hplain h

/-- A word that was read is read again, if nothing goes on with it. -/
theorem read?_local {s r : List Char} {v : Value} (h : read? s = some (v, r)) :
    s = v.written ++ r ∧ (∃ c w, v.written = c :: w ∧ isWordChar c = true) ∧
      ∀ q, Closes q → read? (v.written ++ q) = some (v, q) := by
  unfold read? at h
  cases hsplit : splitWord s with
  | mk word rest =>
      rw [hsplit] at h
      obtain ⟨content, hcontent, hpair⟩ := Option.bind_eq_some_iff.mp h
      cases hpair
      obtain ⟨hs, hstart, hword⟩ := splitWord_local hsplit
      refine ⟨hs, ?_, fun q hq => ?_⟩
      · cases word with
        | nil => cases hcontent
        | cons c w => exact ⟨c, w, rfl, hstart c rfl⟩
      · unfold read?
        rw [hword q hq]
        simp [hcontent]

end ServerLink.Toml.Scalar
