import Mathlib.Data.List.Infix
import ServerLink.Text.Utf8

namespace ServerLink.Text.Utf8

theorem toNat_ofNat {n : Nat} (h : n < 0xD800 ∨ (0xDFFF < n ∧ n < 0x110000)) :
    (Char.ofNat n).toNat = n := by
  rw [Char.ofNat, dif_pos h]
  rfl

theorem isTail_iff {b : UInt8} : isTail b = true ↔ 0x80 ≤ b.toNat ∧ b.toNat ≤ 0xBF := by
  simp [isTail]

theorem ofNat_eq {n : Nat} {b : UInt8} (h : n = b.toNat) : UInt8.ofNat n = b := by
  rw [h, UInt8.ofNat_toNat]

theorem isSecond_cases {a b : UInt8} (h : isSecond a b = true) :
    (0x80 ≤ b.toNat ∧ b.toNat ≤ 0xBF) ∧ (a.toNat = 0xE0 → 0xA0 ≤ b.toNat) ∧
      (a.toNat = 0xED → b.toNat ≤ 0x9F) ∧ (a.toNat = 0xF0 → 0x90 ≤ b.toNat) ∧
      (a.toNat = 0xF4 → b.toNat ≤ 0x8F) := by
  have e0 : a = 0xE0 ↔ a.toNat = 0xE0 := UInt8.toNat_inj.symm
  have ed : a = 0xED ↔ a.toNat = 0xED := UInt8.toNat_inj.symm
  have f0 : a = 0xF0 ↔ a.toNat = 0xF0 := UInt8.toNat_inj.symm
  have f4 : a = 0xF4 ↔ a.toNat = 0xF4 := UInt8.toNat_inj.symm
  unfold isSecond secondRange at h
  simp only [e0, ed, f0, f4] at h
  split at h
  · simp only [Bool.and_eq_true, decide_eq_true_eq] at h
    omega
  · split at h
    · simp only [Bool.and_eq_true, decide_eq_true_eq] at h
      omega
    · split at h
      · simp only [Bool.and_eq_true, decide_eq_true_eq] at h
        omega
      · split at h
        · simp only [Bool.and_eq_true, decide_eq_true_eq] at h
          omega
        · simp only [Bool.and_eq_true, decide_eq_true_eq] at h
          omega

theorem announced_cases (a : UInt8) :
    (announced a = 1 → a.toNat < 0x80) ∧
      (announced a = 2 → 0xC2 ≤ a.toNat ∧ a.toNat ≤ 0xDF) ∧
      (announced a = 3 → 0xE0 ≤ a.toNat ∧ a.toNat ≤ 0xEF) ∧
      (announced a = 4 → 0xF0 ≤ a.toNat ∧ a.toNat ≤ 0xF4) := by
  unfold announced
  simp only [Bool.and_eq_true, decide_eq_true_eq]
  split
  · simp_all
  · split
    · simp_all
    · split
      · simp_all
      · split <;> simp_all

section

variable {a b d e : UInt8}

theorem encodeChar_one (ha : a.toNat < 0x80) : encodeChar (Char.ofNat a.toNat) = [a] := by
  have hn := toNat_ofNat (n := a.toNat) (by omega)
  simp [encodeChar, hn, ha]

theorem encodeChar_two (ha : 0xC2 ≤ a.toNat ∧ a.toNat ≤ 0xDF) (hb : isTail b = true) :
    encodeChar (Char.ofNat ((a.toNat - 0xC0) * 64 + (b.toNat - 0x80))) = [a, b] := by
  have hb := isTail_iff.mp hb
  have hn := toNat_ofNat (n := (a.toNat - 0xC0) * 64 + (b.toNat - 0x80)) (by omega)
  rw [encodeChar, hn, if_neg (by omega), if_pos (by omega)]
  rw [ofNat_eq (b := a) (by omega), ofNat_eq (b := b) (by omega)]

theorem encodeChar_three (ha : 0xE0 ≤ a.toNat ∧ a.toNat ≤ 0xEF) (hb : isSecond a b = true)
    (hd : isTail d = true) :
    encodeChar (Char.ofNat ((a.toNat - 0xE0) * 4096 + (b.toNat - 0x80) * 64 + (d.toNat - 0x80))) =
      [a, b, d] := by
  have hb := isSecond_cases hb
  have hd := isTail_iff.mp hd
  have hn := toNat_ofNat (n := (a.toNat - 0xE0) * 4096 + (b.toNat - 0x80) * 64 + (d.toNat - 0x80))
    (by omega)
  rw [encodeChar, hn, if_neg (by omega), if_neg (by omega), if_pos (by omega)]
  rw [ofNat_eq (b := a) (by omega), ofNat_eq (b := b) (by omega), ofNat_eq (b := d) (by omega)]

theorem encodeChar_four (ha : 0xF0 ≤ a.toNat ∧ a.toNat ≤ 0xF4) (hb : isSecond a b = true)
    (hd : isTail d = true) (he : isTail e = true) :
    encodeChar (Char.ofNat ((a.toNat - 0xF0) * 262144 + (b.toNat - 0x80) * 4096 +
      (d.toNat - 0x80) * 64 + (e.toNat - 0x80))) = [a, b, d, e] := by
  have hb := isSecond_cases hb
  have hd := isTail_iff.mp hd
  have he := isTail_iff.mp he
  have hn := toNat_ofNat (n := (a.toNat - 0xF0) * 262144 + (b.toNat - 0x80) * 4096 +
    (d.toNat - 0x80) * 64 + (e.toNat - 0x80)) (by omega)
  rw [encodeChar, hn, if_neg (by omega), if_neg (by omega), if_neg (by omega)]
  rw [ofNat_eq (b := a) (by omega), ofNat_eq (b := b) (by omega), ofNat_eq (b := d) (by omega),
    ofNat_eq (b := e) (by omega)]

end

theorem eq_append_of_next? {s r : List UInt8} {c : Char} (h : next? s = some (c, r)) :
    s = encodeChar c ++ r := by
  unfold next? at h
  split at h
  · cases h
  · rename_i a rest
    obtain ⟨hone, htwo, hthree, hfour⟩ := announced_cases a
    split at h
    · rename_i hkind
      cases h
      rw [encodeChar_one (hone hkind)]
      rfl
    · rename_i hkind
      split at h
      · rename_i hb
        simp only [Option.some.injEq, Prod.mk.injEq] at h
        obtain ⟨rfl, rfl⟩ := h
        rw [encodeChar_two (htwo hkind) hb]
        rfl
      · cases h
    · rename_i hkind
      split at h
      · rename_i htails
        obtain ⟨hb, hd⟩ := Bool.and_eq_true_iff.mp htails
        simp only [Option.some.injEq, Prod.mk.injEq] at h
        obtain ⟨rfl, rfl⟩ := h
        rw [encodeChar_three (hthree hkind) hb hd]
        rfl
      · cases h
    · rename_i hkind
      split at h
      · rename_i htails
        obtain ⟨hbd, he⟩ := Bool.and_eq_true_iff.mp htails
        obtain ⟨hb, hd⟩ := Bool.and_eq_true_iff.mp hbd
        simp only [Option.some.injEq, Prod.mk.injEq] at h
        obtain ⟨rfl, rfl⟩ := h
        rw [encodeChar_four (hfour hkind) hb hd he]
        rfl
      · cases h
    · cases h

theorem encode_of_decode {s : List UInt8} {t : List Char} (h : decode s = some t) : encode t = s := by
  induction s using decode.induct generalizing t with
  | case1 s hempty =>
      obtain rfl : s = [] := List.isEmpty_iff.mp hempty
      rw [decode_nil] at h
      cases h
      rfl
  | case2 s hempty hnext =>
      rw [decode, if_neg hempty] at h
      split at h
      · cases h
      · rename_i hsome
        rw [hnext] at hsome
        cases hsome
  | case3 s hempty c r hnext hlength ih =>
      rw [decode, if_neg hempty] at h
      split at h
      · cases h
      · rename_i hsome
        rw [hnext] at hsome
        cases hsome
        obtain ⟨t, ht, rfl⟩ := Option.map_eq_some_iff.mp h
        rw [encode_cons, ih ht, eq_append_of_next? hnext]

theorem decode_eq_some_iff {s : List UInt8} {t : List Char} : decode s = some t ↔ s = encode t := by
  constructor
  · intro h
    exact (encode_of_decode h).symm
  · rintro rfl
    exact decode_encode t

/-- A byte below 128 is part of no character but the one that it stands for. -/
theorem toNat_of_mem_encodeChar {b : UInt8} {c : Char} (hb : b.toNat < 128)
    (h : b ∈ encodeChar c) : c.toNat = b.toNat := by
  have hc : c.toNat < 0x110000 := by
    have := c.valid
    simp only [UInt32.isValidChar, Nat.isValidChar] at this
    change c.val.toNat < _
    omega
  have hhigh {n : Nat} (hlow : 128 ≤ n) (hn : n < 256) : ¬ (UInt8.ofNat n).toNat < 128 := by
    simp
    omega
  unfold encodeChar at h
  split at h
  · obtain rfl := List.mem_singleton.mp h
    simp
    omega
  · exfalso
    split at h
    · simp only [List.mem_cons, List.not_mem_nil, or_false] at h
      rcases h with rfl | rfl
      · exact hhigh (by omega) (by omega) hb
      · exact hhigh (by omega) (by omega) hb
    · split at h
      · simp only [List.mem_cons, List.not_mem_nil, or_false] at h
        rcases h with rfl | rfl | rfl
        · exact hhigh (by omega) (by omega) hb
        · exact hhigh (by omega) (by omega) hb
        · exact hhigh (by omega) (by omega) hb
      · simp only [List.mem_cons, List.not_mem_nil, or_false] at h
        rcases h with rfl | rfl | rfl | rfl
        · exact hhigh (by omega) (by omega) hb
        · exact hhigh (by omega) (by omega) hb
        · exact hhigh (by omega) (by omega) hb
        · exact hhigh (by omega) (by omega) hb

theorem notMem_encode {c : Char} (hc : c.toNat < 128) {s : List Char} (h : c ∉ s) :
    UInt8.ofNat c.toNat ∉ encode s := by
  intro hmem
  obtain ⟨d, hd, hb⟩ := List.mem_flatMap.mp hmem
  have hbyte : (UInt8.ofNat c.toNat).toNat = c.toNat := by
    simp
    omega
  have hsame : d = c := Char.toNat_inj.mp ((toNat_of_mem_encodeChar (by omega) hb).trans hbyte)
  exact h (hsame ▸ hd)

theorem exists_of_encode_eq_append {s w : List Char} {y : List UInt8} (h : encode s = encode w ++ y) :
    ∃ b, s = w ++ b ∧ y = encode b := by
  induction w generalizing s with
  | nil => exact ⟨s, rfl, h.symm⟩
  | cons c w ih =>
      rw [encode_cons, List.append_assoc] at h
      have hnext := next?_encodeChar_append c (encode w ++ y)
      rw [← h] at hnext
      cases s with
      | nil => cases hnext
      | cons d s =>
          rw [encode_cons, next?_encodeChar_append] at hnext
          simp only [Option.some.injEq, Prod.mk.injEq] at hnext
          obtain ⟨rfl, hrest⟩ := hnext
          obtain ⟨b, rfl, hy⟩ := ih hrest
          exact ⟨b, rfl, hy⟩

/-- A text that begins with an ASCII character begins, among the bytes of another text, only where a
character begins. -/
theorem exists_of_encode_eq {s : List Char} {x y : List UInt8} {c : Char} (hc : c.toNat < 128)
    {w : List Char} (h : encode s = x ++ (encode (c :: w) ++ y)) :
    ∃ a b, s = a ++ (c :: w ++ b) ∧ x = encode a ∧ y = encode b := by
  induction s generalizing x with
  | nil =>
      have hlength := congrArg List.length h
      have hpos := List.length_pos_of_ne_nil (encodeChar_ne_nil c)
      simp only [encode_nil, encode_cons, List.length_nil, List.length_append] at hlength
      omega
  | cons d s ih =>
      have hsplit := h
      rw [encode_cons, List.append_eq_append_iff] at hsplit
      rcases hsplit with ⟨m, hx, hs⟩ | ⟨m, hd, hm⟩
      · obtain ⟨a, b, rfl, rfl, rfl⟩ := ih hs
        exact ⟨d :: a, b, rfl, hx, rfl⟩
      · cases x with
        | nil =>
            obtain ⟨b, hb, rfl⟩ := exists_of_encode_eq_append h
            exact ⟨[], b, hb, rfl, rfl⟩
        | cons byte x =>
            cases m with
            | nil =>
                rw [List.append_nil] at hd
                obtain ⟨b, rfl, rfl⟩ := exists_of_encode_eq_append hm.symm
                exact ⟨[d], b, rfl, by simp [hd], rfl⟩
            | cons first m =>
                exfalso
                have hfirst : first = UInt8.ofNat c.toNat := by
                  rw [encode_cons, encodeChar, if_pos hc] at hm
                  simpa using (List.cons.inj hm).1.symm
                have hbyte : first.toNat = c.toNat := by
                  rw [hfirst]
                  simp
                  omega
                have hsame := toNat_of_mem_encodeChar (b := first) (c := d) (by omega) (by simp [hd])
                have hlength := congrArg List.length hd
                rw [encodeChar, if_pos (by omega)] at hlength
                simp at hlength

/-- Whether a byte string may be cut at an offset: it lies in the string, and not inside a character. -/
def isBoundary (s : List UInt8) (i : Nat) : Bool :=
  i == 0 || i == s.length || s[i]?.any (!isTail ·)

/-- The bytes from one offset to another, if the byte string may be cut at both. -/
def slice? (s : List UInt8) (i j : Nat) : Option (List UInt8) :=
  if i ≤ j ∧ isBoundary s i = true ∧ isBoundary s j = true then some ((s.take j).drop i) else none

/-- The offset at which a byte string stands first in another. -/
def offset? (p s : List UInt8) : Option Nat :=
  s.tails.findIdx? (p.isPrefixOf ·)

theorem length_of_slice? {s r : List UInt8} {i j : Nat} (h : slice? s i j = some r) :
    r.length + i = j ∧ j ≤ s.length := by
  unfold slice? at h
  split at h
  · rename_i hcuts
    obtain ⟨hle, -, hj⟩ := hcuts
    cases h
    have hbound : j ≤ s.length := by
      simp only [isBoundary, Bool.or_eq_true, beq_iff_eq] at hj
      rcases hj with (rfl | rfl) | hj
      · exact Nat.zero_le _
      · exact Nat.le_refl _
      · by_contra hout
        simp [List.getElem?_eq_none (Nat.le_of_not_le hout)] at hj
    simp only [List.length_drop, List.length_take]
    omega
  · cases h

theorem isTail_head_encodeChar (c : Char) : ∀ b ∈ (encodeChar c).head?, isTail b = false := by
  have hc : c.toNat < 0x110000 := by
    have := c.valid
    simp only [UInt32.isValidChar, Nat.isValidChar] at this
    change c.val.toNat < _
    omega
  intro b hb
  unfold encodeChar at hb
  have hout {n : Nat} (hn : n < 256) (h : n < 0x80 ∨ 0xBF < n) : isTail (UInt8.ofNat n) = false := by
    have hnat : (UInt8.ofNat n).toNat = n := by
      simp
      omega
    simp only [isTail, hnat, Bool.and_eq_false_iff, decide_eq_false_iff_not]
    omega
  split at hb
  · cases hb
    exact hout (by omega) (by omega)
  · split at hb
    · cases hb
      exact hout (by omega) (by omega)
    · split at hb
      · cases hb
        exact hout (by omega) (by omega)
      · cases hb
        exact hout (by omega) (by omega)

theorem isBoundary_encode (a b : List Char) : isBoundary (encode (a ++ b)) (encode a).length = true := by
  rw [encode_append]
  cases b with
  | nil => simp [isBoundary]
  | cons c b =>
      obtain ⟨first, rest, hfirst⟩ := List.exists_cons_of_ne_nil (encodeChar_ne_nil c)
      have htail := isTail_head_encodeChar c first (by simp [hfirst])
      simp [isBoundary, hfirst, htail]

theorem slice?_encode (a b c : List Char) :
    slice? (encode (a ++ (b ++ c))) (encode a).length ((encode a).length + (encode b).length) =
      some (encode b) := by
  have hstart := isBoundary_encode a (b ++ c)
  have hend := isBoundary_encode (a ++ b) c
  rw [List.append_assoc, encode_append a b, List.length_append] at hend
  rw [slice?, if_pos ⟨Nat.le_add_right _ _, hstart, hend⟩]
  simp [List.take_append]

theorem slice?_encode_end (a b : List Char) :
    slice? (encode (a ++ b)) (encode a).length (encode (a ++ b)).length = some (encode b) := by
  have hslice := slice?_encode a b []
  rwa [List.append_nil, ← List.length_append, ← encode_append] at hslice

theorem offset?_eq_some_iff {p s : List UInt8} {i : Nat} : offset? p s = some i ↔
    i ≤ s.length ∧ p <+: s.drop i ∧ ∀ j < i, ¬ p <+: s.drop j := by
  simp only [offset?, List.findIdx?_eq_some_iff_getElem, List.getElem_tails, List.isPrefixOf_iff_prefix,
    List.length_tails, Nat.lt_succ_iff, exists_and_left, exists_prop, and_left_comm]

theorem offset?_eq_none_iff {p s : List UInt8} : offset? p s = none ↔ ¬ p <:+: s := by
  simp only [offset?, List.findIdx?_eq_none_iff, List.mem_tails, ← Bool.not_eq_true,
    List.isPrefixOf_iff_prefix, List.infix_iff_prefix_suffix, not_exists, not_and']

/-- A text that begins with an ASCII character stands first, among the bytes of another text, where it stands
first in that text. -/
theorem offset?_encode {c : Char} (hc : c.toNat < 128) {w a b : List Char}
    (hfirst : ∀ a' b', a ++ (c :: w ++ b) = a' ++ (c :: w ++ b') → a <+: a') :
    offset? (encode (c :: w)) (encode (a ++ (c :: w ++ b))) = some (encode a).length := by
  have hbytes : encode (a ++ (c :: w ++ b)) = encode a ++ (encode (c :: w) ++ encode b) := by
    simp
  refine offset?_eq_some_iff.mpr ⟨?_, ?_, fun j hj hprefix => ?_⟩
  · simp
  · rw [hbytes, List.drop_left]
    exact List.prefix_append _ _
  · obtain ⟨y, hy⟩ := hprefix
    have hcut : encode (a ++ (c :: w ++ b)) =
        (encode (a ++ (c :: w ++ b))).take j ++ (encode (c :: w) ++ y) := by
      rw [hy, List.take_append_drop]
    obtain ⟨a', b', hs, htake, -⟩ := exists_of_encode_eq hc hcut
    obtain ⟨m, rfl⟩ := hfirst a' b' hs
    have hlength := congrArg List.length htake
    rw [encode_append a m, List.length_append, List.length_take] at hlength
    omega

theorem offset?_encode_eq_none {c : Char} (hc : c.toNat < 128) {w s : List Char}
    (h : ¬ (c :: w) <:+: s) : offset? (encode (c :: w)) (encode s) = none := by
  refine offset?_eq_none_iff.mpr ?_
  rintro ⟨x, y, hxy⟩
  rw [List.append_assoc] at hxy
  obtain ⟨a, b, rfl, -, -⟩ := exists_of_encode_eq hc hxy.symm
  exact h ⟨a, b, by simp⟩

end ServerLink.Text.Utf8
