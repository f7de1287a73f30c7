namespace ServerLink.Decimal

def digit (n : Nat) : Char :=
  Char.ofNat (48 + n)

def digits (n : Nat) : List Char :=
  if n < 10 then [digit n] else digits (n / 10) ++ [digit (n % 10)]

/-- The number that a row of digits denotes; leading zeros do not count. -/
def value (s : List Char) : Nat :=
  s.foldl (fun n c => 10 * n + (c.toNat - 48)) 0

def isNumeral (s : List Char) : Bool :=
  !s.isEmpty && s.all Char.isDigit

def dropPlus : List Char → List Char
  | '+' :: s => s
  | s => s

/-- Reads a numeral, which a plus sign may precede, of a number below the bound. -/
def readBelow? (bound : Nat) (s : List Char) : Option Nat :=
  if isNumeral (dropPlus s) && value (dropPlus s) < bound then some (value (dropPlus s)) else none

theorem isDigit_digit {n : Nat} (h : n < 10) : (digit n).isDigit = true := by
  match n, h with
  | 0, _ | 1, _ | 2, _ | 3, _ | 4, _ | 5, _ | 6, _ | 7, _ | 8, _ | 9, _ => rfl

theorem toNat_digit {n : Nat} (h : n < 10) : (digit n).toNat = 48 + n := by
  match n, h with
  | 0, _ | 1, _ | 2, _ | 3, _ | 4, _ | 5, _ | 6, _ | 7, _ | 8, _ | 9, _ => rfl

theorem digits_ne_nil (n : Nat) : digits n ≠ [] := by
  unfold digits
  split <;> simp

theorem isDigit_of_mem_digits {n : Nat} {c : Char} (h : c ∈ digits n) : c.isDigit = true := by
  induction n using digits.induct with
  | case1 n hn =>
      rw [digits, if_pos hn] at h
      rw [List.mem_singleton.mp h]
      exact isDigit_digit hn
  | case2 n hn ih =>
      rw [digits, if_neg hn] at h
      rcases List.mem_append.mp h with h | h
      · exact ih h
      · rw [List.mem_singleton.mp h]
        exact isDigit_digit (Nat.mod_lt _ (by decide))

theorem value_append_singleton (s : List Char) (c : Char) :
    value (s ++ [c]) = 10 * value s + (c.toNat - 48) := by
  simp [value]

theorem value_digits (n : Nat) : value (digits n) = n := by
  induction n using digits.induct with
  | case1 n hn =>
      rw [digits, if_pos hn]
      simp [value, toNat_digit hn]
  | case2 n hn ih =>
      rw [digits, if_neg hn, value_append_singleton, ih, toNat_digit (Nat.mod_lt _ (by decide))]
      omega

theorem isNumeral_digits (n : Nat) : isNumeral (digits n) = true := by
  simp only [isNumeral, Bool.and_eq_true, Bool.not_eq_true', List.isEmpty_eq_false_iff,
    List.all_eq_true]
  exact ⟨digits_ne_nil n, fun _ h => isDigit_of_mem_digits h⟩

theorem dropPlus_of_isNumeral {s : List Char} (h : isNumeral s = true) : dropPlus s = s := by
  unfold dropPlus
  split
  · simp [isNumeral] at h
  · rfl

theorem readBelow?_digits {bound n : Nat} (h : n < bound) :
    readBelow? bound (digits n) = some n := by
  simp [readBelow?, dropPlus_of_isNumeral (isNumeral_digits n), isNumeral_digits, value_digits, h]

end ServerLink.Decimal
