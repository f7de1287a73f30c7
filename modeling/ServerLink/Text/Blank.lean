namespace ServerLink.Text

/-- The characters that have the Unicode property White_Space. -/
def isBlank (c : Char) : Bool :=
  (9 ≤ c.toNat && c.toNat ≤ 13) || c.toNat == 0x20 || c.toNat == 0x85 || c.toNat == 0xA0 ||
  c.toNat == 0x1680 || (0x2000 ≤ c.toNat && c.toNat ≤ 0x200A) || c.toNat == 0x2028 ||
  c.toNat == 0x2029 || c.toNat == 0x202F || c.toNat == 0x205F || c.toNat == 0x3000

def trimStart (s : List Char) : List Char :=
  s.dropWhile isBlank

def trimEnd (s : List Char) : List Char :=
  (s.reverse.dropWhile isBlank).reverse

def trim (s : List Char) : List Char :=
  trimEnd (trimStart s)

@[simp]
theorem trimStart_nil : trimStart [] = [] := rfl

@[simp]
theorem trimEnd_nil : trimEnd [] = [] := rfl

theorem trimStart_cons_of_not_isBlank {c : Char} (h : isBlank c = false) (s : List Char) :
    trimStart (c :: s) = c :: s := by
  simp [trimStart, h]

theorem trimStart_append_of_blank {b : List Char} (h : ∀ c ∈ b, isBlank c = true)
    (s : List Char) : trimStart (b ++ s) = trimStart s := by
  induction b with
  | nil => rfl
  | cons c b ih =>
      have hc : isBlank c = true := h c (by simp)
      have hb : ∀ d ∈ b, isBlank d = true := fun d hd => h d (by simp [hd])
      simpa [trimStart, hc] using ih hb

theorem trimEnd_append_of_blank {b : List Char} (h : ∀ c ∈ b, isBlank c = true)
    (s : List Char) : trimEnd (s ++ b) = trimEnd s := by
  have hb : ∀ c ∈ b.reverse, isBlank c = true := fun c hc => h c (by simpa using hc)
  have := trimStart_append_of_blank hb s.reverse
  simpa [trimEnd, trimStart] using congrArg List.reverse this

theorem trimEnd_concat_of_not_isBlank {c : Char} (h : isBlank c = false) (s : List Char) :
    trimEnd (s ++ [c]) = s ++ [c] := by
  simp [trimEnd, h]

end ServerLink.Text
