import ServerLink.Proofs.Text.Utf8
import ServerLink.Url.Percent

namespace ServerLink.Url

open Text

/-- A digit is one byte, from which its value is read. -/
theorem exists_encodeChar_hexDigit {n : Nat} (hn : n < 16) :
    ∃ d, Utf8.encodeChar (hexDigit n) = [d] ∧ hexValue? d = some n := by
  have hdigits : ∀ n < 16, (Utf8.encodeChar (hexDigit n)).map hexValue? = [some n] := by decide
  exact List.map_eq_singleton_iff.mp (hdigits n hn)

theorem decodeBytes_cons {b : UInt8} (hb : b ≠ 37) (s : List UInt8) :
    decodeBytes (b :: s) = b :: decodeBytes s := by
  rw [decodeBytes]
  rintro - - - rfl
  exact absurd rfl hb

theorem decodeBytes_escapeByte (b : UInt8) (s : List UInt8) :
    decodeBytes (Utf8.encode (escapeByte b) ++ s) = b :: decodeBytes s := by
  have hb := b.toNat_lt
  obtain ⟨high, hhigh, hhighValue⟩ := exists_encodeChar_hexDigit (n := b.toNat / 16) (by omega)
  obtain ⟨low, hlow, hlowValue⟩ := exists_encodeChar_hexDigit (n := b.toNat % 16) (by omega)
  have hbytes : Utf8.encode (escapeByte b) = [37, high, low] := by
    simp only [escapeByte, Utf8.encode_cons, hhigh, hlow, Utf8.encode_nil]
    rfl
  rw [hbytes]
  simp only [List.cons_append, List.nil_append, decodeBytes, hhighValue, hlowValue, Nat.div_add_mod,
    UInt8.ofNat_toNat]

theorem decodeBytes_encodeByte {set : EscapeSet} (hset : set '%' = true) (b : UInt8)
    (s : List UInt8) : decodeBytes (Utf8.encode (encodeByte set b) ++ s) = b :: decodeBytes s := by
  rw [encodeByte]
  split
  · rename_i hplain
    obtain ⟨hascii, hout⟩ := hplain
    have hne : b ≠ 37 := by
      rintro rfl
      change (!set '%') = true at hout
      simp [hset] at hout
    have hbyte : Utf8.encode [asciiChar b] = [b] := by simp [asciiChar, Utf8.encodeChar_one hascii]
    rw [hbyte]
    exact decodeBytes_cons hne s
  · exact decodeBytes_escapeByte b s

theorem decodeBytes_encodeBytes {set : EscapeSet} (hset : set '%' = true) (bytes s : List UInt8) :
    decodeBytes (Utf8.encode (encodeBytes set bytes) ++ s) = bytes ++ decodeBytes s := by
  induction bytes with
  | nil => rfl
  | cons b bytes ih =>
      rw [encodeBytes, List.flatMap_cons, Utf8.encode_append, List.append_assoc,
        decodeBytes_encodeByte hset]
      exact congrArg (b :: ·) ih

end ServerLink.Url
