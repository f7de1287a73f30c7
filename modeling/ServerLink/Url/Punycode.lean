/-!
Punycode: a text as ASCII. The ASCII characters come first; behind a hyphen the other ones follow, in
ascending order, as the distances between the states in which they are put in.
-/

namespace ServerLink.Url.Punycode

def adapt (delta count : Nat) (first : Bool) : Nat :=
  let delta := if first then delta / 700 else delta / 2
  scale (delta + delta / count) 0
where
  /-- Divides a distance until it is small; every division counts for a whole turn. -/
  scale (delta turns : Nat) : Nat :=
    if delta ≤ 455 then turns + 36 * delta / (delta + 38) else scale (delta / 35) (turns + 36)
  termination_by delta

def threshold (position bias : Nat) : Nat :=
  if position ≤ bias then 1 else if position ≥ bias + 26 then 26 else position - bias

theorem threshold_pos (position bias : Nat) : 0 < threshold position bias := by
  unfold threshold
  split
  · omega
  · split <;> omega

theorem threshold_le (position bias : Nat) : threshold position bias ≤ 26 := by
  unfold threshold
  split
  · omega
  · split <;> omega

def digit (n : Nat) : Char :=
  if n < 26 then Char.ofNat (97 + n) else Char.ofNat (22 + n)

def digitValue? (c : Char) : Option Nat :=
  if 'a' ≤ c ∧ c ≤ 'z' then some (c.toNat - 97)
  else if 'A' ≤ c ∧ c ≤ 'Z' then some (c.toNat - 65)
  else if '0' ≤ c ∧ c ≤ '9' then some (c.toNat - 22)
  else none

def digits (n position bias : Nat) : List Char :=
  let t := threshold position bias
  if h : n < t then [digit n]
  else
    have : (n - t) / (36 - t) < n := by
      have hp := threshold_pos position bias
      have hl := threshold_le position bias
      exact Nat.lt_of_le_of_lt (Nat.div_le_self _ _) (by omega)
    digit (t + (n - t) % (36 - t)) :: digits ((n - t) / (36 - t)) (position + 36) bias
termination_by n

structure State where
  delta : Nat
  bias : Nat
  count : Nat
  output : List Char

/-- Goes over the text for one character outside ASCII, and writes the distance to each place of it. -/
def encodePass (m : Nat) (first : Bool) : List Char → State → State
  | [], s => s
  | c :: text, s =>
      if c.toNat < m then encodePass m first text { s with delta := s.delta + 1 }
      else if c.toNat = m then
        encodePass m false text
          ⟨0, adapt s.delta (s.count + 1) first, s.count + 1, s.output ++ digits s.delta 36 s.bias⟩
      else encodePass m first text s

def encodeFrom (basic : Nat) (text : List Char) : List Nat → Nat → State → List Char
  | [], _, s => s.output
  | m :: ms, n, s =>
      let s := encodePass m (s.count == basic) text
        { s with delta := s.delta + (m - n) * (s.count + 1) }
      encodeFrom basic text ms (m + 1) { s with delta := s.delta + 1 }

def insertOnce (n : Nat) : List Nat → List Nat
  | [] => [n]
  | m :: ms => if n < m then n :: m :: ms else if n = m then m :: ms else m :: insertOnce n ms

def encode (text : List Char) : List Char :=
  let basic := text.filter (·.toNat < 128)
  let others := (text.filter (128 ≤ ·.toNat)).foldl (fun ms c => insertOnce c.toNat ms) []
  let start := if basic.isEmpty then [] else basic ++ ['-']
  encodeFrom basic.length text others 128 ⟨0, 72, basic.length, start⟩

def distanceLimit : Nat := 0x100000000

def readDistance (bias : Nat) : List Char → Nat → Nat → Nat → Option (Nat × List Char)
  | [], _, _, _ => none
  | c :: s, sum, weight, position => do
      let d ← digitValue? c
      let t := threshold position bias
      if distanceLimit ≤ weight ∨ distanceLimit ≤ sum + d * weight then none
      else if d < t then return (sum + d * weight, s)
      else readDistance bias s (sum + d * weight) (weight * (36 - t)) (position + 36)

theorem length_lt_of_readDistance {bias n : Nat} {s r : List Char} {sum weight position : Nat}
    (h : readDistance bias s sum weight position = some (n, r)) : r.length < s.length := by
  induction s generalizing sum weight position with
  | nil => simp [readDistance] at h
  | cons c s ih =>
      simp only [readDistance, Option.bind_eq_bind, Option.bind_eq_some_iff] at h
      obtain ⟨d, _, h⟩ := h
      split at h
      · simp at h
      · split at h
        · simp only [Option.pure_def, Option.some.injEq, Prod.mk.injEq] at h
          simp [h.2]
        · exact Nat.lt_succ_of_lt (ih h)

def decodeFrom (text : List Char) (n i bias : Nat) (first : Bool) (s : List Char) :
    Option (List Char) :=
  if s.isEmpty then some text
  else
    match h : readDistance bias s 0 1 36 with
    | none => none
    | some (distance, rest) =>
        have := length_lt_of_readDistance h
        let count := text.length + 1
        let m := n + (i + distance) / count
        let place := (i + distance) % count
        if 0x110000 ≤ m ∨ (0xD800 ≤ m ∧ m < 0xE000) then none
        else
          decodeFrom (text.take place ++ Char.ofNat m :: text.drop place) m (place + 1)
            (adapt distance count first) false rest
termination_by s.length

/-- The text of an encoded form. A hyphen at its start has no ASCII characters before it, and then
it would be a digit, which it is not. -/
def decode (s : List Char) : Option (List Char) :=
  if s.all (·.toNat < 128) then
    let reversed := s.reverse
    let tail := (reversed.takeWhile (· != '-')).reverse
    let basic := ((reversed.dropWhile (· != '-')).drop 1).reverse
    decodeFrom basic 128 0 72 true (if basic.isEmpty then s else tail)
  else none

end ServerLink.Url.Punycode
