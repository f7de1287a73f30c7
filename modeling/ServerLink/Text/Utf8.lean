import ServerLink.Text.Blank
/-!
UTF-8: characters as bytes and bytes as characters. Decoding reads back what encoding wrote, also
in front of other bytes, and a lossy decoding puts one replacement character for each longest run
of bytes that begins a character without finishing it.
-/

namespace ServerLink.Text.Utf8

def encodeChar (c : Char) : List UInt8 :=
  if c.toNat < 0x80 then [UInt8.ofNat c.toNat]
  else if c.toNat < 0x800 then
    [UInt8.ofNat (0xC0 + c.toNat / 64), UInt8.ofNat (0x80 + c.toNat % 64)]
  else if c.toNat < 0x10000 then
    [UInt8.ofNat (0xE0 + c.toNat / 4096), UInt8.ofNat (0x80 + c.toNat / 64 % 64),
      UInt8.ofNat (0x80 + c.toNat % 64)]
  else
    [UInt8.ofNat (0xF0 + c.toNat / 262144), UInt8.ofNat (0x80 + c.toNat / 4096 % 64),
      UInt8.ofNat (0x80 + c.toNat / 64 % 64), UInt8.ofNat (0x80 + c.toNat % 64)]

def encode (s : List Char) : List UInt8 :=
  s.flatMap encodeChar

def isTail (b : UInt8) : Bool :=
  0x80 ≤ b.toNat && b.toNat ≤ 0xBF

/-- The least and the greatest second byte after a first byte that opens three or four bytes: they
shut out longer forms than needed, surrogates, and numbers above the last character. -/
def secondRange (first : UInt8) : Nat × Nat :=
  if first = 0xE0 then (0xA0, 0xBF)
  else if first = 0xED then (0x80, 0x9F)
  else if first = 0xF0 then (0x90, 0xBF)
  else if first = 0xF4 then (0x80, 0x8F)
  else (0x80, 0xBF)

def isSecond (first second : UInt8) : Bool :=
  (secondRange first).1 ≤ second.toNat && second.toNat ≤ (secondRange first).2

/-- The number of bytes of the character that a first byte opens, and `0` for a byte that opens
none. -/
def announced (first : UInt8) : Nat :=
  if first.toNat < 0x80 then 1
  else if 0xC2 ≤ first.toNat && first.toNat ≤ 0xDF then 2
  else if 0xE0 ≤ first.toNat && first.toNat ≤ 0xEF then 3
  else if 0xF0 ≤ first.toNat && first.toNat ≤ 0xF4 then 4
  else 0

def next? : List UInt8 → Option (Char × List UInt8)
  | [] => none
  | a :: rest =>
      match announced a, rest with
      | 1, rest => some (Char.ofNat a.toNat, rest)
      | 2, b :: rest =>
          if isTail b then
            some (Char.ofNat ((a.toNat - 0xC0) * 64 + (b.toNat - 0x80)), rest)
          else none
      | 3, b :: c :: rest =>
          if isSecond a b && isTail c then
            some (Char.ofNat
              ((a.toNat - 0xE0) * 4096 + (b.toNat - 0x80) * 64 + (c.toNat - 0x80)), rest)
          else none
      | 4, b :: c :: d :: rest =>
          if isSecond a b && isTail c && isTail d then
            some (Char.ofNat ((a.toNat - 0xF0) * 262144 + (b.toNat - 0x80) * 4096 +
              (c.toNat - 0x80) * 64 + (d.toNat - 0x80)), rest)
          else none
      | _, _ => none

theorem length_lt_of_next? {s r : List UInt8} {c : Char} (h : next? s = some (c, r)) :
    r.length < s.length := by
  unfold next? at h
  split at h
  · simp at h
  · split at h
    · cases h; simp
    · split at h
      · simp only [Option.some.injEq, Prod.mk.injEq] at h
        simp only [← h.2, List.length_cons]
        omega
      · simp at h
    · split at h
      · simp only [Option.some.injEq, Prod.mk.injEq] at h
        simp only [← h.2, List.length_cons]
        omega
      · simp at h
    · split at h
      · simp only [Option.some.injEq, Prod.mk.injEq] at h
        simp only [← h.2, List.length_cons]
        omega
      · simp at h
    · simp at h

/-- The text of a byte string that is UTF-8 throughout. -/
def decode (s : List UInt8) : Option (List Char) :=
  if s.isEmpty then some []
  else
    match h : next? s with
    | none => none
    | some (c, r) =>
        have : r.length < s.length := length_lt_of_next? h
        (decode r).map (c :: ·)
termination_by s.length

/-- How many bytes at the start of a byte string, which does not begin with a character, begin one
without finishing it: at least one. -/
def brokenLength : List UInt8 → Nat
  | a :: b :: c :: _ =>
      if announced a ≤ 2 || !isSecond a b then 1
      else if announced a = 3 || !isTail c then 2
      else 3
  | [a, b] => if announced a ≤ 2 || !isSecond a b then 1 else 2
  | _ => 1

theorem brokenLength_pos (s : List UInt8) : 0 < brokenLength s := by
  unfold brokenLength
  split <;> (repeat' split) <;> omega

theorem length_drop_brokenLength_lt {s : List UInt8} (hs : s ≠ []) :
    (s.drop (brokenLength s)).length < s.length := by
  have := List.length_pos_iff.mpr hs
  have := brokenLength_pos s
  simp only [List.length_drop]
  omega

/-- The text of any byte string: a replacement character stands for each run of bytes that begins
no character or does not finish the one it begins. -/
def decodeLossy (s : List UInt8) : List Char :=
  if hs : s = [] then []
  else
    match h : next? s with
    | none =>
        have := length_drop_brokenLength_lt hs
        '\uFFFD' :: decodeLossy (s.drop (brokenLength s))
    | some (c, r) =>
        have := length_lt_of_next? h
        c :: decodeLossy r
termination_by s.length
decreasing_by all_goals assumption

@[simp]
theorem encode_nil : encode [] = [] := rfl

@[simp]
theorem encode_cons (c : Char) (s : List Char) : encode (c :: s) = encodeChar c ++ encode s := rfl

@[simp]
theorem encode_append (s t : List Char) : encode (s ++ t) = encode s ++ encode t :=
  List.flatMap_append

@[simp]
theorem decode_nil : decode [] = some [] := by
  rw [decode]; rfl

private theorem toNat_lt_size (c : Char) :
    c.toNat < 0xD800 ∨ (0xDFFF < c.toNat ∧ c.toNat < 0x110000) :=
  c.valid

private theorem toNat_byte {n : Nat} (h : n < 256) : (UInt8.ofNat n).toNat = n :=
  UInt8.toNat_ofNat_of_lt h

private theorem isTail_ofNat (n : Nat) : isTail (UInt8.ofNat (0x80 + n % 64)) = true := by
  simp [isTail]
  omega

private theorem isSecond_of_bounds {a b : UInt8} (hb : 0x80 ≤ b.toNat ∧ b.toNat ≤ 0xBF)
    (hE0 : a.toNat = 0xE0 → 0xA0 ≤ b.toNat) (hED : a.toNat = 0xED → b.toNat ≤ 0x9F)
    (hF0 : a.toNat = 0xF0 → 0x90 ≤ b.toNat) (hF4 : a.toNat = 0xF4 → b.toNat ≤ 0x8F) :
    isSecond a b = true := by
  have e0 : a = 0xE0 ↔ a.toNat = 0xE0 := UInt8.toNat_inj.symm
  have ed : a = 0xED ↔ a.toNat = 0xED := UInt8.toNat_inj.symm
  have f0 : a = 0xF0 ↔ a.toNat = 0xF0 := UInt8.toNat_inj.symm
  have f4 : a = 0xF4 ↔ a.toNat = 0xF4 := UInt8.toNat_inj.symm
  unfold isSecond secondRange
  simp only [e0, ed, f0, f4]
  (repeat' split) <;> simp only [Bool.and_eq_true, decide_eq_true_eq] <;> omega

private theorem next?_one {c : Char} (h : c.toNat < 0x80) (r : List UInt8) :
    next? (UInt8.ofNat c.toNat :: r) = some (c, r) := by
  have ha : (UInt8.ofNat c.toNat).toNat = c.toNat := toNat_byte (by omega)
  have hone : announced (UInt8.ofNat c.toNat) = 1 := by rw [announced, ha, if_pos h]
  simp only [next?, hone, ha, Char.ofNat_toNat]

private theorem next?_two {c : Char} (hc : 0x80 ≤ c.toNat ∧ c.toNat < 0x800) (r : List UInt8) :
    next? (UInt8.ofNat (0xC0 + c.toNat / 64) :: UInt8.ofNat (0x80 + c.toNat % 64) :: r) =
      some (c, r) := by
  have ha : (UInt8.ofNat (0xC0 + c.toNat / 64)).toNat = 0xC0 + c.toNat / 64 := toNat_byte (by omega)
  have hb : (UInt8.ofNat (0x80 + c.toNat % 64)).toNat = 0x80 + c.toNat % 64 := toNat_byte (by omega)
  have htwo : announced (UInt8.ofNat (0xC0 + c.toNat / 64)) = 2 := by
    rw [announced, ha, if_neg (by omega), if_pos (by simp; omega)]
  have hsum : (0xC0 + c.toNat / 64 - 0xC0) * 64 + (0x80 + c.toNat % 64 - 0x80) = c.toNat := by omega
  simp only [next?, htwo, isTail_ofNat, ha, hb, hsum, Char.ofNat_toNat, if_true]

private theorem next?_three {c : Char} (hc : 0x800 ≤ c.toNat ∧ c.toNat < 0x10000)
    (hvalid : c.toNat < 0xD800 ∨ 0xDFFF < c.toNat) (r : List UInt8) :
    next? (UInt8.ofNat (0xE0 + c.toNat / 4096) :: UInt8.ofNat (0x80 + c.toNat / 64 % 64) ::
      UInt8.ofNat (0x80 + c.toNat % 64) :: r) = some (c, r) := by
  have ha : (UInt8.ofNat (0xE0 + c.toNat / 4096)).toNat = 0xE0 + c.toNat / 4096 :=
    toNat_byte (by omega)
  have hb : (UInt8.ofNat (0x80 + c.toNat / 64 % 64)).toNat = 0x80 + c.toNat / 64 % 64 :=
    toNat_byte (by omega)
  have hd : (UInt8.ofNat (0x80 + c.toNat % 64)).toNat = 0x80 + c.toNat % 64 := toNat_byte (by omega)
  have hthree : announced (UInt8.ofNat (0xE0 + c.toNat / 4096)) = 3 := by
    rw [announced, ha, if_neg (by omega), if_neg (by simp; omega), if_pos (by simp; omega)]
  have hsecond : isSecond (UInt8.ofNat (0xE0 + c.toNat / 4096))
      (UInt8.ofNat (0x80 + c.toNat / 64 % 64)) = true := by
    apply isSecond_of_bounds <;> rw [hb] <;> omega
  have hsum : (0xE0 + c.toNat / 4096 - 0xE0) * 4096 + (0x80 + c.toNat / 64 % 64 - 0x80) * 64 +
      (0x80 + c.toNat % 64 - 0x80) = c.toNat := by omega
  simp only [next?, hthree, hsecond, isTail_ofNat, Bool.and_self, ha, hb, hd, hsum, Char.ofNat_toNat,
    if_true]

private theorem next?_four {c : Char} (hc : 0x10000 ≤ c.toNat ∧ c.toNat < 0x110000) (r : List UInt8) :
    next? (UInt8.ofNat (0xF0 + c.toNat / 262144) :: UInt8.ofNat (0x80 + c.toNat / 4096 % 64) ::
      UInt8.ofNat (0x80 + c.toNat / 64 % 64) :: UInt8.ofNat (0x80 + c.toNat % 64) :: r) =
        some (c, r) := by
  have ha : (UInt8.ofNat (0xF0 + c.toNat / 262144)).toNat = 0xF0 + c.toNat / 262144 :=
    toNat_byte (by omega)
  have hb : (UInt8.ofNat (0x80 + c.toNat / 4096 % 64)).toNat = 0x80 + c.toNat / 4096 % 64 :=
    toNat_byte (by omega)
  have hd : (UInt8.ofNat (0x80 + c.toNat / 64 % 64)).toNat = 0x80 + c.toNat / 64 % 64 :=
    toNat_byte (by omega)
  have he : (UInt8.ofNat (0x80 + c.toNat % 64)).toNat = 0x80 + c.toNat % 64 := toNat_byte (by omega)
  have hfour : announced (UInt8.ofNat (0xF0 + c.toNat / 262144)) = 4 := by
    rw [announced, ha, if_neg (by omega), if_neg (by simp; omega), if_neg (by simp; omega),
      if_pos (by simp; omega)]
  have hsecond : isSecond (UInt8.ofNat (0xF0 + c.toNat / 262144))
      (UInt8.ofNat (0x80 + c.toNat / 4096 % 64)) = true := by
    apply isSecond_of_bounds <;> rw [hb] <;> omega
  have hsum : (0xF0 + c.toNat / 262144 - 0xF0) * 262144 + (0x80 + c.toNat / 4096 % 64 - 0x80) * 4096 +
      (0x80 + c.toNat / 64 % 64 - 0x80) * 64 + (0x80 + c.toNat % 64 - 0x80) = c.toNat := by omega
  simp only [next?, hfour, hsecond, isTail_ofNat, Bool.and_self, ha, hb, hd, he, hsum, Char.ofNat_toNat,
    if_true]

theorem next?_encodeChar_append (c : Char) (r : List UInt8) :
    next? (encodeChar c ++ r) = some (c, r) := by
  have hvalid := toNat_lt_size c
  unfold encodeChar
  split
  · next hone => exact next?_one hone r
  · next hone =>
    split
    · next htwo => exact next?_two ⟨by omega, htwo⟩ r
    · next htwo =>
      split
      · next hthree => exact next?_three ⟨by omega, hthree⟩ (by omega) r
      · exact next?_four ⟨by omega, by omega⟩ r

theorem encodeChar_ne_nil (c : Char) : encodeChar c ≠ [] := by
  unfold encodeChar
  (repeat' split) <;> simp

theorem decode_encode_append (s : List Char) (r : List UInt8) :
    decode (encode s ++ r) = (decode r).map (s ++ ·) := by
  induction s with
  | nil => simp
  | cons c s ih =>
      rw [encode_cons, List.append_assoc, decode]
      have hne : (encodeChar c ++ (encode s ++ r)).isEmpty = false := by
        simp [encodeChar_ne_nil]
      rw [hne, if_neg (by simp)]
      split
      · next h => simp [next?_encodeChar_append] at h
      · next d t h =>
          rw [next?_encodeChar_append] at h
          cases h
          simp [ih, Function.comp_def]

theorem decode_encode (s : List Char) : decode (encode s) = some s := by
  simpa using decode_encode_append s []

def bytes (s : String) : List UInt8 :=
  encode s.toList

/-- The text of a byte string, with replacement characters for what is not UTF-8. -/
def text (s : List UInt8) : String :=
  String.ofList (decodeLossy s)

def text? (s : List UInt8) : Option String :=
  (decode s).map String.ofList

end ServerLink.Text.Utf8
