import ServerLink.Proofs.Wire.Block

/-!
Reading a stream to its end. A reading takes something off the front of the stream unless the stream has come
to its end, so that there are no more readings than bytes. Where the lengths in front of the bodies are right,
each body is read by itself, whatever its bytes are.
-/

namespace ServerLink.Wire

theorem takeLine_suffix (s : List UInt8) : (takeLine s).2 <:+ s :=
  ⟨_, takeLine_append s⟩

theorem readHeaders_suffix (given : Option Nat) (s : List UInt8) : (readHeaders given s).2 <:+ s := by
  fun_induction readHeaders given s with
  | case1 => exact List.suffix_refl _
  | case2 => exact takeLine_suffix _
  | case3 => exact takeLine_suffix _
  | case4 _ _ _ _ _ _ _ ih => exact ih.trans (takeLine_suffix _)
  | case5 => exact takeLine_suffix _
  | case6 _ _ _ _ _ _ _ _ _ _ ih => exact ih.trans (takeLine_suffix _)

theorem readBody_suffix (length : Nat) (s : List UInt8) : (readBody length s).2 <:+ s := by
  rcases Nat.lt_or_ge s.length length with hcut | hfits
  · rw [readBody_of_short hcut]
    exact List.nil_suffix
  · rw [readBody_of_le hfits]
    exact List.drop_suffix length s

theorem readFrame_suffix (s : List UInt8) : (readFrame s).2 <:+ s := by
  have hheaders := readHeaders_suffix none s
  unfold readFrame
  split
  · exact List.nil_suffix
  · split
    · rename_i hread
      rw [hread] at hheaders
      exact hheaders
    · rename_i hread
      rw [hread] at hheaders
      exact hheaders
    · rename_i n rest hread
      rw [hread] at hheaders
      split
      · exact (readBody_suffix n rest).trans hheaders
      · exact hheaders

/-- Only where nothing is left is the stream at its end. -/
theorem readFrame_ended_iff {s : List UInt8} : (readFrame s).1 = .ended ↔ s = [] := by
  constructor
  · intro hended
    by_contra hne
    have hfull : s.isEmpty = false := by simpa using hne
    rw [readFrame, hfull] at hended
    simp only [Bool.false_eq_true, if_false] at hended
    split at hended
    · cases hended
    · cases hended
    · split at hended
      · unfold readBody at hended
        split at hended
        · split at hended <;> cases hended
        · cases hended
      · cases hended
  · rintro rfl
    rfl

theorem readFrame_takes {s : List UInt8} (hne : s ≠ []) :
    ∃ taken, taken ≠ [] ∧ s = taken ++ (readFrame s).2 := by
  obtain ⟨taken, htaken⟩ := readFrame_suffix s
  refine ⟨taken, ?_, htaken.symm⟩
  rintro rfl
  have hlength := length_readFrame_lt hne
  rw [List.nil_append] at htaken
  rw [htaken] at hlength
  exact Nat.lt_irrefl _ hlength

theorem readAll_ends (s : List UInt8) :
    ∃ results, readAll s = results ++ [.ended] ∧ results.length ≤ s.length ∧ .ended ∉ results := by
  fun_induction readAll s with
  | case1 => exact ⟨[], rfl, Nat.le_refl _, List.not_mem_nil⟩
  | case2 s hne hlt ih =>
      obtain ⟨results, hresults, hlength, hnot⟩ := ih
      refine ⟨(readFrame s).1 :: results, ?_, ?_, ?_⟩
      · rw [hresults]
        rfl
      · simp only [List.length_cons]
        omega
      · rw [List.mem_cons, not_or]
        exact ⟨fun hended => hne (readFrame_ended_iff.mp hended.symm), hnot⟩

/-- A body behind a header block that gives its length. -/
structure Parcel where
  block : HeaderBlock
  body : List UInt8
  lengths : ∀ value ∈ block.values, IsLength value
  given : ∃ value, block.values.getLast? = some value ∧ Decimal.Denotes value body.length
  fits : body.length ≤ maxBody

namespace Parcel

def bytes (p : Parcel) : List UInt8 :=
  p.block.bytes ++ p.body

def reading (p : Parcel) : Reading :=
  readingOf p.body

theorem readFrame_bytes (p : Parcel) (rest : List UInt8) :
    readFrame (p.bytes ++ rest) = (p.reading, rest) := by
  obtain ⟨value, hlast, hdenotes⟩ := p.given
  rw [bytes, List.append_assoc, HeaderBlock.readFrame_of_length p.lengths hlast hdenotes, readLength,
    if_pos p.fits, readBody_of_le (by simp), List.take_left, List.drop_left]
  rfl

theorem readAll_bytes (p : Parcel) (rest : List UInt8) :
    readAll (p.bytes ++ rest) = p.reading :: readAll rest := by
  refine readAll_of_readFrame ?_ (p.readFrame_bytes rest)
  rw [bytes, List.append_assoc]
  exact p.block.bytes_ne_nil _

end Parcel

/-- A reading that is not the end takes at least one byte off the front of any stream, so that reading again
and again comes to the end after no more readings than there are bytes. Of bodies behind blocks with the right
lengths each gives one reading, the value that it is or the error that it is none, and then the stream is at
its end: what one of them holds has no effect on another. -/
theorem readings_come_to_the_end :
    (∀ s, (readFrame s).1 ≠ .ended → ∃ taken, taken ≠ [] ∧ s = taken ++ (readFrame s).2) ∧
    (∀ s, ∃ results, readAll s = results ++ [.ended] ∧ results.length ≤ s.length ∧ .ended ∉ results) ∧
    ∀ parcels : List Parcel,
      readAll (parcels.flatMap Parcel.bytes) = parcels.map Parcel.reading ++ [.ended] := by
  refine ⟨fun s hs => readFrame_takes (readFrame_ended_iff.not.mp hs), readAll_ends, ?_⟩
  intro parcels
  induction parcels with
  | nil => exact readAll_nil
  | cons p parcels ih => rw [List.flatMap_cons, p.readAll_bytes, ih, List.map_cons, List.cons_append]

/-- A body that looks like a header block. -/
def blockAsBody : Parcel where
  block := {
    lines := ["Content-Length: 21".toList]
    last := []
    lines_feed := by decide
    lines_full := by decide
    last_feed := by decide
    last_blank := by decide }
  body := Text.Utf8.encode "Content-Length: 0\r\n\r\n".toList
  lengths := by
    intro value hvalue
    obtain rfl : value = ['2', '1'] := List.mem_singleton.mp hvalue
    exact isLength_iff.mpr ⟨21, rfl⟩
  given := ⟨['2', '1'], by decide, (lengthOf?_eq_some_iff.mp rfl).1⟩
  fits := by decide

theorem readings_come_to_the_end_after_blockAsBody :
    (readFrame (blockAsBody.bytes ++ blockAsBody.bytes)).1 ≠ .ended ∧
      (∃ taken, taken ≠ [] ∧ blockAsBody.bytes ++ blockAsBody.bytes = taken ++ blockAsBody.bytes) ∧
      readAll (blockAsBody.bytes ++ blockAsBody.bytes) =
        [.error .malformedBody, .error .malformedBody, .ended] := by
  have hbody : Json.readBytes? blockAsBody.body = none := by
    change Json.readBytes? (Text.Utf8.encode "Content-Length: 0\r\n\r\n".toList) = none
    rw [Json.readBytes?, Text.Utf8.decode_encode]
    change Json.read? _ = none
    rw [Json.read?, Json.Form.read?, Json.Form.readValue]
    rfl
  have hreading : blockAsBody.reading = .error .malformedBody := by
    rw [Parcel.reading, readingOf, hbody]
  have hfirst := blockAsBody.readFrame_bytes blockAsBody.bytes
  obtain ⟨htakes, -, hread⟩ := readings_come_to_the_end
  have hgoes : (readFrame (blockAsBody.bytes ++ blockAsBody.bytes)).1 ≠ .ended := by
    rw [hfirst, hreading]
    rintro ⟨⟩
  refine ⟨hgoes, ?_, ?_⟩
  · have htaken := htakes _ hgoes
    rwa [hfirst] at htaken
  · simpa [hreading] using hread [blockAsBody, blockAsBody]

end ServerLink.Wire
