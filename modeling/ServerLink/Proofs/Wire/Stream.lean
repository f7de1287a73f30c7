import ServerLink.Proofs.Wire.Header

/-!
A stream of frames that breaks off anywhere. Whatever frames are there as a whole are read; where the
stream breaks off inside a frame the reader says so, and where it breaks off between two it is at its end.
-/

namespace ServerLink

theorem Json.readBytes?_writeBytes (j : Json) : readBytes? j.writeBytes = read? j.write := by
  rw [readBytes?, writeBytes, Text.Utf8.decode_encode]
  rfl

namespace Wire

open ServerLink.Text

/-- A value whose frame is small enough to be read and whose body is read as the value again. -/
structure Framed (j : Json) : Prop where
  fits : j.writeBytes.length ≤ maxBody
  reads : Json.readBytes? j.writeBytes = some j

def writeAll (js : List Json) : List UInt8 :=
  js.flatMap writeFrame

/-- The values whose frames lie wholly in the first `k` bytes. -/
def wholeFrames (k : Nat) : List Json → List Json
  | [] => []
  | j :: js =>
      if (writeFrame j).length ≤ k then j :: wholeFrames (k - (writeFrame j).length) js else []

theorem writeFrame_ne_nil (j : Json) : writeFrame j ≠ [] := by
  rw [writeFrame, headerBlock_eq]
  simp

theorem Framed.length_lt {j : Json} (h : Framed j) : j.writeBytes.length < lengthBound :=
  Nat.lt_of_le_of_lt h.fits (by decide)

theorem Framed.length_pos {j : Json} (h : Framed j) : 0 < j.writeBytes.length := by
  have hempty : Json.readBytes? [] = none := by
    rw [Json.readBytes?, Utf8.decode]
    change Json.read? [] = none
    rw [Json.read?, Json.Form.read?, Json.Form.readValue]
    rfl
  refine List.length_pos_iff.mpr fun hnil => ?_
  have hreads := h.reads
  rw [hnil, hempty] at hreads
  cases hreads

theorem readFrame_writeFrame {j : Json} (h : Framed j) (rest : List UInt8) :
    readFrame (writeFrame j ++ rest) = (.frame j, rest) := by
  have hne : (writeFrame j ++ rest).isEmpty = false := by
    simp [writeFrame_ne_nil]
  have hheaders : readHeaders none (writeFrame j ++ rest) =
      (.ok (some j.writeBytes.length), j.writeBytes ++ rest) := by
    rw [writeFrame, List.append_assoc, readHeaders_headerBlock h.length_lt]
  have hbody : readBody j.writeBytes.length (j.writeBytes ++ rest) = (.frame j, rest) := by
    simp [readBody, h.reads]
  simp only [readFrame, hne, hheaders, h.fits, hbody, if_true, if_false, Bool.false_eq_true]

/-- A header block that is cut short never gives a length other than the one it was written for. -/
theorem readHeaders_take_headerBlock {length k : Nat} (h : length < lengthBound)
    (hk : k < (headerBlock length).length) :
    readHeaders none ((headerBlock length).take k) = (.ok none, []) ∨
      readHeaders none ((headerBlock length).take k) = (.ok (some length), []) ∨
      ∃ e, readHeaders none ((headerBlock length).take k) = (.error e, []) := by
  have hline := Utf8.lineFeed_notMem_encode (lineFeed_notMem_lengthHeader length)
  have hblock := headerBlock_eq length
  generalize hheader : Utf8.encode (lengthHeader length ++ ['\r']) = line at hblock hline
  rw [hblock] at hk ⊢
  rcases Nat.lt_or_ge line.length k with hlong | hshort
  · obtain ⟨m, rfl⟩ := Nat.exists_eq_add_of_lt hlong
    have hm : m < 2 := by
      simp only [List.length_append, List.length_cons, List.length_nil] at hk
      omega
    have htake : (line ++ 10 :: [13, 10]).take (line.length + m + 1) =
        line ++ 10 :: [13, 10].take m := by
      rw [Nat.add_assoc, List.take_length_add_append, List.take_succ_cons]
    have hrest : 10 ∉ [13, (10 : UInt8)].take m := by
      obtain rfl | rfl : m = 0 ∨ m = 1 := by omega
      · decide
      · decide
    rw [htake, ← hheader, readHeaders_lengthHeader none h]
    exact .inr (readHeaders_of_notMem (some length) hrest)
  · have hpart : 10 ∉ line.take k := fun hmem => hline (List.mem_of_mem_take hmem)
    rw [List.take_append_of_le_length hshort]
    exact (readHeaders_of_notMem none hpart).imp_right .inr

theorem readBody_of_short {length : Nat} {s : List UInt8} (h : s.length < length) :
    readBody length s = (.error .bodyCut, []) := by
  rw [readBody, if_neg (by omega)]

/-- A frame that breaks off is no frame, and it uses up all that was there of it. -/
theorem readFrame_take_writeFrame {j : Json} (h : Framed j) {k : Nat} (hpos : 0 < k)
    (hk : k < (writeFrame j).length) :
    ∃ e, readFrame ((writeFrame j).take k) = (.error e, []) := by
  have hne : ((writeFrame j).take k).isEmpty = false := by
    simp [writeFrame_ne_nil, Nat.ne_of_gt hpos]
  rw [readFrame, hne]
  simp only [Bool.false_eq_true, if_false]
  rw [writeFrame] at hk ⊢
  generalize hblock : headerBlock j.writeBytes.length = block at hk ⊢
  rcases Nat.lt_or_ge k block.length with hshort | hlong
  · rw [List.take_append_of_le_length (Nat.le_of_lt hshort)]
    subst hblock
    rcases readHeaders_take_headerBlock h.length_lt hshort with hnone | hsome | ⟨e, he⟩
    · rw [hnone]
      exact ⟨_, rfl⟩
    · have hbody : readBody j.writeBytes.length [] = (.error .bodyCut, []) :=
        readBody_of_short h.length_pos
      rw [hsome]
      simp only [h.fits, if_true, hbody]
      exact ⟨_, rfl⟩
    · rw [he]
      exact ⟨_, rfl⟩
  · obtain ⟨m, rfl⟩ := Nat.exists_eq_add_of_le hlong
    have hm : (j.writeBytes.take m).length < j.writeBytes.length := by
      simp only [List.length_append] at hk
      rw [List.length_take]
      omega
    rw [List.take_length_add_append, ← hblock, readHeaders_headerBlock h.length_lt]
    simp only [h.fits, if_true, readBody_of_short hm]
    exact ⟨_, rfl⟩

theorem readAll_nil : readAll [] = [.ended] := by
  rw [readAll, dif_pos rfl]

theorem readAll_of_readFrame {s rest : List UInt8} {r : Reading} (hne : s ≠ [])
    (h : readFrame s = (r, rest)) : readAll s = r :: readAll rest := by
  rw [readAll, dif_neg hne]
  simp only [h]

theorem readAll_writeFrame {j : Json} (h : Framed j) (rest : List UInt8) :
    readAll (writeFrame j ++ rest) = .frame j :: readAll rest :=
  readAll_of_readFrame (by simp [writeFrame_ne_nil]) (readFrame_writeFrame h rest)

theorem readAll_take_writeFrame {j : Json} (h : Framed j) {k : Nat} (hpos : 0 < k)
    (hk : k < (writeFrame j).length) :
    ∃ e, readAll ((writeFrame j).take k) = [.error e, .ended] := by
  obtain ⟨e, he⟩ := readFrame_take_writeFrame h hpos hk
  have hne : (writeFrame j).take k ≠ [] := by
    simp [writeFrame_ne_nil, Nat.ne_of_gt hpos]
  rw [readAll_of_readFrame hne he, readAll_nil]
  exact ⟨e, rfl⟩

theorem wholeFrames_isPrefix (k : Nat) (js : List Json) : wholeFrames k js <+: js := by
  induction js generalizing k with
  | nil => exact List.prefix_rfl
  | cons j js ih =>
      unfold wholeFrames
      split
      · exact List.cons_prefix_cons.mpr ⟨rfl, ih _⟩
      · exact List.nil_prefix

/-- The whole frames are exactly those that end within the first `k` bytes. -/
theorem prefix_wholeFrames_iff {k : Nat} {js part : List Json} (h : part <+: js) :
    part <+: wholeFrames k js ↔ (writeAll part).length ≤ k := by
  induction js generalizing k part with
  | nil =>
      obtain rfl := List.prefix_nil.mp h
      simp [writeAll]
  | cons j js ih =>
      rcases List.prefix_cons_iff.mp h with rfl | ⟨part, rfl, hpart⟩
      · simp [writeAll]
      · have hlength : (writeAll (j :: part)).length =
            (writeFrame j).length + (writeAll part).length := by
          simp [writeAll]
        unfold wholeFrames
        split
        · rw [List.cons_prefix_cons, ih hpart, hlength]
          simp only [true_and]
          omega
        · rw [List.prefix_nil, hlength]
          constructor
          · rintro ⟨⟩
          · omega

theorem length_writeAll_wholeFrames_le (k : Nat) (js : List Json) :
    (writeAll (wholeFrames k js)).length ≤ k :=
  (prefix_wholeFrames_iff (wholeFrames_isPrefix k js)).mp List.prefix_rfl

theorem length_writeAll_wholeFrames_eq_iff {k : Nat} {js : List Json} :
    (writeAll (wholeFrames k js)).length = k ↔
      ∃ part, part <+: js ∧ (writeAll part).length = k := by
  constructor
  · intro h
    exact ⟨_, wholeFrames_isPrefix k js, h⟩
  · rintro ⟨part, hpart, hk⟩
    have hle := length_writeAll_wholeFrames_le k js
    obtain ⟨rest, hrest⟩ := (prefix_wholeFrames_iff hpart).mpr (Nat.le_of_eq hk)
    rw [← hrest] at hle ⊢
    simp only [writeAll, List.flatMap_append, List.length_append] at hle hk ⊢
    omega

theorem readAll_take {js : List Json} (hjs : ∀ j ∈ js, Framed j) {k : Nat}
    (hk : k ≤ (writeAll js).length) :
    ((writeAll (wholeFrames k js)).length = k →
      readAll ((writeAll js).take k) = (wholeFrames k js).map .frame ++ [.ended]) ∧
    ((writeAll (wholeFrames k js)).length ≠ k → ∃ e,
      readAll ((writeAll js).take k) = (wholeFrames k js).map .frame ++ [.error e, .ended]) := by
  induction js generalizing k with
  | nil =>
      obtain rfl : k = 0 := Nat.le_zero.mp hk
      exact ⟨fun _ => readAll_nil, fun h => absurd rfl h⟩
  | cons j js ih =>
      have hj := hjs j List.mem_cons_self
      have hcons (js : List Json) : writeAll (j :: js) = writeFrame j ++ writeAll js := rfl
      unfold wholeFrames
      split
      · next hfits =>
        obtain ⟨m, rfl⟩ := Nat.exists_eq_add_of_le hfits
        rw [hcons, List.length_append] at hk
        obtain ⟨hended, herror⟩ := ih (fun i hi => hjs i (List.mem_cons_of_mem j hi))
          (Nat.le_of_add_le_add_left hk)
        rw [Nat.add_sub_cancel_left, hcons, hcons, List.take_length_add_append,
          readAll_writeFrame hj, List.length_append]
        constructor
        · intro h
          rw [hended (by omega)]
          rfl
        · intro h
          obtain ⟨e, he⟩ := herror (by omega)
          rw [he]
          exact ⟨e, rfl⟩
      · next hcut =>
        have hcut : k < (writeFrame j).length := Nat.lt_of_not_le hcut
        rw [hcons, List.take_append_of_le_length (Nat.le_of_lt hcut)]
        constructor
        · intro h
          obtain rfl : 0 = k := h
          exact readAll_nil
        · intro h
          exact readAll_take_writeFrame hj (Nat.pos_of_ne_zero (Ne.symm h)) hcut

/-- However few bytes of a row of frames arrive, the frames that are whole are read in their order, and
behind them the reader is at the end where it stands between two frames and fails where it does not. -/
theorem reads_whole_frames {js : List Json} {k : Nat} (hjs : ∀ j ∈ js, Framed j)
    (hk : k ≤ (writeAll js).length) :
    ∃ whole, whole <+: js ∧
      (∀ part, part <+: js → (part <+: whole ↔ (writeAll part).length ≤ k)) ∧
      ((∃ part, part <+: js ∧ (writeAll part).length = k) →
        readAll ((writeAll js).take k) = whole.map .frame ++ [.ended]) ∧
      ((¬ ∃ part, part <+: js ∧ (writeAll part).length = k) → ∃ e,
        readAll ((writeAll js).take k) = whole.map .frame ++ [.error e, .ended]) := by
  obtain ⟨hended, herror⟩ := readAll_take hjs hk
  rw [length_writeAll_wholeFrames_eq_iff] at hended
  rw [Ne, length_writeAll_wholeFrames_eq_iff] at herror
  refine ⟨wholeFrames k js, wholeFrames_isPrefix k js, ?_, hended, herror⟩
  intro part hpart
  exact prefix_wholeFrames_iff hpart

/-- Of two frames of 25 bytes each the second is cut in its length. -/
theorem reads_whole_frames_of_two :
    (∀ j ∈ [Json.string "é", .null], Framed j) ∧ 42 ≤ (writeAll [.string "é", .null]).length ∧
      ∃ e, readAll ((writeAll [.string "é", .null]).take 42) =
        [.frame (.string "é"), .error e, .ended] := by
  have hframed : ∀ j ∈ [Json.string "é", .null], Framed j := by
    intro j hj
    simp only [List.mem_cons, List.not_mem_nil, or_false] at hj
    rcases hj with rfl | rfl
    · refine ⟨by decide, ?_⟩
      rw [Json.readBytes?_writeBytes, Json.read?, Json.Form.read?, Json.Form.readValue]
      rfl
    · refine ⟨by decide, ?_⟩
      rw [Json.readBytes?_writeBytes, Json.read?, Json.Form.read?, Json.Form.readValue]
      rfl
  have hone : (writeAll [.string "é"]).length = 25 := by decide +kernel
  have htwo : (writeAll [.string "é", .null]).length = 50 := by decide +kernel
  refine ⟨hframed, by omega, ?_⟩
  obtain ⟨whole, hwhole, hpart, -, hcut⟩ := reads_whole_frames hframed (k := 42) (by omega)
  have hfirst : whole = [.string "é"] := by
    have hsome := (hpart [.string "é"] ⟨[.null], rfl⟩).mpr (by omega)
    have hall : ¬ [.string "é", .null] <+: whole := by
      rw [hpart _ List.prefix_rfl]
      omega
    obtain ⟨more, rfl⟩ := hsome
    cases more with
    | nil => rfl
    | cons j more =>
        exact absurd (hwhole.eq_of_length_le (by simp) ▸ List.prefix_rfl) hall
  rw [hfirst] at hcut
  refine hcut ?_
  rintro ⟨part, hprefix, hk⟩
  have hle := (hpart part hprefix).mpr (Nat.le_of_eq hk)
  rw [hfirst] at hle
  rcases List.prefix_cons_iff.mp hle with rfl | ⟨rest, rfl, hrest⟩
  · cases hk
  · obtain rfl := List.prefix_nil.mp hrest
    omega

end Wire

end ServerLink
