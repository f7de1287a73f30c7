import ServerLink.Decimal.Natural

namespace ServerLink.Decimal

/-- A text denotes a number. -/
inductive Denotes : List Char → Nat → Prop where
  | plain {s : List Char} (hne : s ≠ []) (hdigits : ∀ c ∈ s, c.isDigit = true) : Denotes s (value s)
  | signed {s : List Char} (hne : s ≠ []) (hdigits : ∀ c ∈ s, c.isDigit = true) :
      Denotes ('+' :: s) (value s)

theorem isNumeral_iff {s : List Char} : isNumeral s = true ↔ s ≠ [] ∧ ∀ c ∈ s, c.isDigit = true := by
  simp [isNumeral]

theorem denotes_iff {s : List Char} {n : Nat} :
    Denotes s n ↔ isNumeral (dropPlus s) = true ∧ value (dropPlus s) = n := by
  constructor
  · intro h
    cases h with
    | plain hne hdigits =>
        have hnumeral := isNumeral_iff.mpr ⟨hne, hdigits⟩
        rw [dropPlus_of_isNumeral hnumeral]
        exact ⟨hnumeral, rfl⟩
    | signed hne hdigits => exact ⟨isNumeral_iff.mpr ⟨hne, hdigits⟩, rfl⟩
  · rintro ⟨hnumeral, rfl⟩
    obtain ⟨hne, hdigits⟩ := isNumeral_iff.mp hnumeral
    revert hne hdigits
    fun_cases dropPlus s with
    | case1 digits => exact .signed
    | case2 => exact .plain

theorem readBelow?_eq_some_iff {bound n : Nat} {s : List Char} :
    readBelow? bound s = some n ↔ Denotes s n ∧ n < bound := by
  rw [denotes_iff, readBelow?]
  constructor
  · intro h
    split at h
    · rename_i hread
      cases h
      simp only [Bool.and_eq_true, decide_eq_true_eq] at hread
      exact ⟨⟨hread.1, rfl⟩, hread.2⟩
    · cases h
  · rintro ⟨⟨hnumeral, rfl⟩, hlt⟩
    simp [hnumeral, hlt]

theorem readBelow?_eq_none_iff {bound : Nat} {s : List Char} :
    readBelow? bound s = none ↔ ∀ n, Denotes s n → bound ≤ n := by
  rw [Option.eq_none_iff_forall_ne_some]
  constructor
  · intro h n hn
    apply Nat.le_of_not_lt
    intro hlt
    exact h n (readBelow?_eq_some_iff.mpr ⟨hn, hlt⟩)
  · intro h n hread
    obtain ⟨hn, hlt⟩ := readBelow?_eq_some_iff.mp hread
    exact absurd (h n hn) (Nat.not_le_of_lt hlt)

theorem denotes_digits (n : Nat) : Denotes (digits n) n := by
  have hdenotes : Denotes (digits n) (value (digits n)) :=
    .plain (digits_ne_nil n) fun _ hc => isDigit_of_mem_digits hc
  rwa [value_digits] at hdenotes

theorem value_zeros_append {zeros : List Char} (hzeros : ∀ c ∈ zeros, c = '0') (s : List Char) :
    value (zeros ++ s) = value s := by
  induction zeros with
  | nil => rfl
  | cons c zeros ih =>
      obtain rfl : c = '0' := hzeros _ List.mem_cons_self
      exact ih fun d hd => hzeros d (List.mem_cons_of_mem _ hd)

theorem readBelow?_zeros {zeros digits : List Char} (hzeros : ∀ c ∈ zeros, c = '0')
    (hne : digits ≠ []) (hdigits : ∀ c ∈ digits, c.isDigit = true) (bound : Nat) {sign : List Char}
    (hsign : sign = [] ∨ sign = ['+']) :
    readBelow? bound (sign ++ (zeros ++ digits)) = readBelow? bound (sign ++ digits) := by
  have hall : ∀ c ∈ zeros ++ digits, c.isDigit = true := by
    refine List.forall_mem_append.mpr ⟨fun c hc => ?_, hdigits⟩
    rw [hzeros c hc]
    rfl
  have hpadded : isNumeral (zeros ++ digits) = true := isNumeral_iff.mpr ⟨by simp [hne], hall⟩
  have hnumeral : isNumeral digits = true := isNumeral_iff.mpr ⟨hne, hdigits⟩
  have hvalue := value_zeros_append hzeros digits
  rcases hsign with rfl | rfl
  · simp only [readBelow?, List.nil_append, dropPlus_of_isNumeral hpadded,
      dropPlus_of_isNumeral hnumeral, hpadded, hnumeral, hvalue]
  · simp only [readBelow?, List.singleton_append, dropPlus, hpadded, hnumeral, hvalue]

end ServerLink.Decimal
