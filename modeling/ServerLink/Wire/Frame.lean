import ServerLink.Json.Reader
import ServerLink.Json.Writer
import ServerLink.Text.Quoted
import ServerLink.Wire.Header
/-!
Frames: JSON values on a byte stream, each behind a header block that gives the length of its body.
A reader takes one frame off the stream at a time; whatever it meets, it consumes something unless
the stream is at its end between frames.
-/

namespace ServerLink.Wire

open ServerLink.Text

def maxBody : Nat := 16 * 1024 * 1024

inductive FrameError where
  | bodyCut
  | headerNotText
  | truncatedHeaders
  | missingContentLength
  /-- A header gives something that is no length. -/
  | invalidContentLength (value : String)
  | frameTooLarge (length : Nat)
  | malformedBody
  deriving DecidableEq, Repr

def FrameError.message : FrameError → String
  | .bodyCut => "I/O error on LSP stream"
  | .headerNotText => "I/O error on LSP stream"
  | .truncatedHeaders => "unexpected EOF while reading headers"
  | .missingContentLength => "missing Content-Length header"
  | .invalidContentLength value => "invalid Content-Length value: " ++ quoted value
  | .frameTooLarge length =>
      "Content-Length " ++ toString length ++ " exceeds maximum " ++ toString maxBody
  | .malformedBody => "malformed JSON-RPC body"

/-- Whether an error leaves nothing more to be read from the stream. -/
def FrameError.endsStream : FrameError → Bool
  | .bodyCut | .headerNotText | .truncatedHeaders => true
  | _ => false

inductive Reading where
  | frame (j : Json)
  | error (e : FrameError)
  | ended
  deriving Repr

def takeLine : List UInt8 → List UInt8 × List UInt8
  | [] => ([], [])
  | b :: s => if b = 10 then ([b], s) else (b :: (takeLine s).1, (takeLine s).2)

theorem takeLine_append (s : List UInt8) : (takeLine s).1 ++ (takeLine s).2 = s := by
  induction s with
  | nil => rfl
  | cons b s ih =>
      simp only [takeLine]
      split
      · next h => simp
      · simpa using ih

theorem length_takeLine_lt {s : List UInt8} (h : s ≠ []) :
    (takeLine s).2.length < s.length := by
  cases s with
  | nil => exact absurd rfl h
  | cons b s =>
      simp only [takeLine]
      split
      · simp
      · have := congrArg List.length (takeLine_append s)
        simp only [List.length_append, List.length_cons] at this ⊢
        omega

/-- Reads the rest of a header block, in which the length given so far is `length`, and gives the
bytes behind it. -/
def readHeaders (length : Option Nat) (s : List UInt8) :
    Except FrameError (Option Nat) × List UInt8 :=
  if h : s = [] then (.error .truncatedHeaders, [])
  else
    have := length_takeLine_lt h
    match Utf8.decode (takeLine s).1 with
    | none => (.error .headerNotText, (takeLine s).2)
    | some line =>
        match HeaderLine.ofText line with
        | .blank => (.ok length, (takeLine s).2)
        | .other => readHeaders length (takeLine s).2
        | .length value =>
            match lengthOf? value with
            | none => (.error (.invalidContentLength (String.ofList value)), (takeLine s).2)
            -- A later length takes the place of an earlier one.
            | some n => readHeaders (some n) (takeLine s).2
termination_by s.length

def readBody (length : Nat) (s : List UInt8) : Reading × List UInt8 :=
  if length ≤ s.length then
    match Json.readBytes? (s.take length) with
    | some j => (.frame j, s.drop length)
    | none => (.error .malformedBody, s.drop length)
  else (.error .bodyCut, [])

def readFrame (s : List UInt8) : Reading × List UInt8 :=
  if s.isEmpty then (.ended, [])
  else
    match readHeaders none s with
    | (.error e, r) => (.error e, r)
    | (.ok none, r) => (.error .missingContentLength, r)
    -- A body that is too large is not skipped: its first bytes are read as headers next.
    | (.ok (some n), r) => if n ≤ maxBody then readBody n r else (.error (.frameTooLarge n), r)

theorem length_readHeaders_le (length : Option Nat) (s : List UInt8) :
    (readHeaders length s).2.length ≤ s.length := by
  fun_induction readHeaders length s with
  | case1 => simp
  | case2 length s h => exact Nat.le_of_lt (length_takeLine_lt h)
  | case3 length s h => exact Nat.le_of_lt (length_takeLine_lt h)
  | case4 length s h _ _ _ _ ih => exact Nat.le_trans ih (Nat.le_of_lt (length_takeLine_lt h))
  | case5 length s h => exact Nat.le_of_lt (length_takeLine_lt h)
  | case6 length s h _ _ _ _ _ _ _ ih =>
      exact Nat.le_trans ih (Nat.le_of_lt (length_takeLine_lt h))

theorem length_readHeaders_lt (length : Option Nat) {s : List UInt8} (h : s ≠ []) :
    (readHeaders length s).2.length < s.length := by
  have ht := length_takeLine_lt h
  rw [readHeaders, dif_neg h]
  split
  · exact ht
  · split
    · exact ht
    · exact Nat.lt_of_le_of_lt (length_readHeaders_le _ _) ht
    · split
      · exact ht
      · exact Nat.lt_of_le_of_lt (length_readHeaders_le _ _) ht

theorem length_readBody_le (length : Nat) (s : List UInt8) :
    (readBody length s).2.length ≤ s.length := by
  unfold readBody
  split
  · split <;> simp
  · simp

/-- Reading consumes something wherever the stream is not at its end. -/
theorem length_readFrame_lt {s : List UInt8} (h : s ≠ []) :
    (readFrame s).2.length < s.length := by
  have hr := length_readHeaders_lt none h
  unfold readFrame
  rw [if_neg (by simpa using h)]
  split
  · next e r hs => simpa [hs] using hr
  · next r hs => simpa [hs] using hr
  · next n r hs =>
    rw [hs] at hr
    split
    · exact Nat.lt_of_le_of_lt (length_readBody_le _ _) hr
    · exact hr

def readAll (s : List UInt8) : List Reading :=
  if h : s = [] then [.ended]
  else
    have := length_readFrame_lt h
    (readFrame s).1 :: readAll (readFrame s).2
termination_by s.length

/-- The readings up to the first that leaves nothing more to be read. -/
def untilStreamEnds : List Reading → List Reading
  | [] => []
  | .error e :: xs => if e.endsStream then [.error e] else .error e :: untilStreamEnds xs
  | x :: xs => x :: untilStreamEnds xs

def headerBlock (length : Nat) : List UInt8 :=
  Utf8.encode (contentLength ++ ':' :: ' ' :: Decimal.digits length ++ ['\r', '\n', '\r', '\n'])

def writeFrame (j : Json) : List UInt8 :=
  headerBlock j.writeBytes.length ++ j.writeBytes

end ServerLink.Wire
