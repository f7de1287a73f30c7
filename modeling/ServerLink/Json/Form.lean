import ServerLink.Text.Blank
import ServerLink.Decimal.Natural
/-!
The written form of a JSON value: what the grammar says of a text, before numbers and escapes are
given a meaning. Reading a form ends on every text, because each step leaves a shorter one.
-/

namespace ServerLink.Json

/-- A part of a written string: a character, or a unit of sixteen bits given by an escape. -/
inductive Piece where
  | char (c : Char)
  | unit (n : Nat)
  deriving DecidableEq, Repr

structure Numeral where
  negative : Bool
  whole : List Char
  fraction : List Char
  exponent : Option (Bool × List Char)
  deriving DecidableEq, Repr

/-- A written value. Members stand in the order of the text, repeated keys among them. -/
inductive Form where
  | null
  | bool (b : Bool)
  | number (n : Numeral)
  | string (s : List Piece)
  | array (items : List Form)
  | object (members : List (List Piece × Form))
  deriving Repr, Inhabited

namespace Form

def isSpace (c : Char) : Bool :=
  c == ' ' || c == '\n' || c == '\t' || c == '\r'

def skip (s : List Char) : List Char :=
  s.dropWhile isSpace

theorem length_skip_le (s : List Char) : (skip s).length ≤ s.length :=
  (List.dropWhile_sublist _).length_le

def hexValue? (c : Char) : Option Nat :=
  if c.isDigit then some (c.toNat - 48)
  else if 'a' ≤ c ∧ c ≤ 'f' then some (c.toNat - 87)
  else if 'A' ≤ c ∧ c ≤ 'F' then some (c.toNat - 55)
  else none

def hex4? (a b c d : Char) : Option Nat := do
  return (← hexValue? a) * 4096 + (← hexValue? b) * 256 + (← hexValue? c) * 16 + (← hexValue? d)

def escaped? : Char → Option Char
  | '"' => some '"'
  | '\\' => some '\\'
  | '/' => some '/'
  | 'b' => some '\x08'
  | 'f' => some '\x0c'
  | 'n' => some '\n'
  | 'r' => some '\r'
  | 't' => some '\t'
  | _ => none

/-- Reads a string behind its opening quote, and the closing quote. -/
def readPieces : List Char → Option (List Piece × List Char)
  | [] => none
  | '"' :: s => some ([], s)
  | '\\' :: 'u' :: a :: b :: c :: d :: s => do
      let n ← hex4? a b c d
      let (p, r) ← readPieces s
      return (.unit n :: p, r)
  | '\\' :: e :: s => do
      let c ← escaped? e
      let (p, r) ← readPieces s
      return (.char c :: p, r)
  | c :: s =>
      if c.toNat < 0x20 ∨ c = '\\' then none
      else do
        let (p, r) ← readPieces s
        return (.char c :: p, r)

theorem length_lt_of_readPieces {s r : List Char} {p : List Piece}
    (h : readPieces s = some (p, r)) : r.length < s.length := by
  induction s using readPieces.induct generalizing p with
  | case1 => simp [readPieces] at h
  | case2 s => simp [readPieces] at h; simp [h.2]
  | case3 a b c d s ih =>
      simp only [readPieces, bind, Option.bind_eq_some_iff, pure, Option.some.injEq,
        Prod.mk.injEq] at h
      obtain ⟨n, _, ⟨q, t⟩, hq, _, rfl⟩ := h
      have : t.length < s.length := ih hq
      simp only [List.length_cons]
      omega
  | case4 e s hne ih =>
      rw [readPieces] at h
      · simp only [bind, Option.bind_eq_some_iff, pure, Option.some.injEq, Prod.mk.injEq] at h
        obtain ⟨n, _, ⟨q, t⟩, hq, _, rfl⟩ := h
        have : t.length < s.length := ih hq
        simp only [List.length_cons]
        omega
      · exact hne
  | case5 c s h1 h2 h3 hc =>
      rw [readPieces] at h
      · simp [hc] at h
      all_goals assumption
  | case6 c s h1 h2 h3 hc ih =>
      rw [readPieces] at h
      · simp only [if_neg hc, bind, Option.bind_eq_some_iff, pure, Option.some.injEq,
          Prod.mk.injEq] at h
        obtain ⟨⟨q, t⟩, hq, _, rfl⟩ := h
        have : t.length < s.length := ih hq
        simp only [List.length_cons]
        omega
      all_goals assumption

def spanDigits (s : List Char) : List Char × List Char :=
  (s.takeWhile Char.isDigit, s.dropWhile Char.isDigit)

theorem length_spanDigits_le (s : List Char) : (spanDigits s).2.length ≤ s.length :=
  (List.dropWhile_sublist _).length_le

def readFraction : List Char → Option (List Char × List Char)
  | '.' :: s => if (spanDigits s).1.isEmpty then none else some (spanDigits s)
  | s => some ([], s)

def readExponentDigits : List Char → Option ((Bool × List Char) × List Char)
  | '-' :: s => if (spanDigits s).1.isEmpty then none else some ((true, (spanDigits s).1), (spanDigits s).2)
  | '+' :: s => if (spanDigits s).1.isEmpty then none else some ((false, (spanDigits s).1), (spanDigits s).2)
  | s => if (spanDigits s).1.isEmpty then none else some ((false, (spanDigits s).1), (spanDigits s).2)

def readExponent : List Char → Option (Option (Bool × List Char) × List Char)
  | c :: s =>
      if c = 'e' ∨ c = 'E' then (readExponentDigits s).map fun x => (some x.1, x.2)
      else some (none, c :: s)
  | [] => some (none, [])

/-- Reads a number without its sign. A zero stands alone before the point. -/
def readUnsigned (negative : Bool) (s : List Char) : Option (Numeral × List Char) :=
  match s with
  | c :: t =>
      if !c.isDigit || (c == '0' && !(spanDigits t).1.isEmpty) then none
      else do
        let (fraction, r) ← readFraction (spanDigits s).2
        let (exponent, r) ← readExponent r
        return (⟨negative, (spanDigits s).1, fraction, exponent⟩, r)
  | [] => none

def readNumeral : List Char → Option (Numeral × List Char)
  | '-' :: s => readUnsigned true s
  | s => readUnsigned false s

theorem length_le_of_readFraction {s f r : List Char} (h : readFraction s = some (f, r)) :
    r.length ≤ s.length := by
  unfold readFraction at h
  split at h
  · next t =>
    split at h
    · simp at h
    · simp only [Option.some.injEq] at h
      have := length_spanDigits_le t
      simp only [h] at this
      simp only [List.length_cons]
      omega
  · simp only [Option.some.injEq, Prod.mk.injEq] at h
    simp [h.2]

theorem length_le_of_readExponentDigits {s r : List Char} {e : Bool × List Char}
    (h : readExponentDigits s = some (e, r)) : r.length ≤ s.length := by
  unfold readExponentDigits at h
  split at h <;> split at h <;> simp only [Option.some.injEq, Prod.mk.injEq, reduceCtorEq] at h <;>
    rw [← h.2]
  · exact Nat.le_trans (length_spanDigits_le _) (by simp)
  · exact Nat.le_trans (length_spanDigits_le _) (by simp)
  · exact length_spanDigits_le _

theorem length_le_of_readExponent {s r : List Char} {e : Option (Bool × List Char)}
    (h : readExponent s = some (e, r)) : r.length ≤ s.length := by
  unfold readExponent at h
  split at h
  · split at h
    · simp only [Option.map_eq_some_iff, Prod.mk.injEq] at h
      obtain ⟨⟨x, t⟩, hx, _, rfl⟩ := h
      have := length_le_of_readExponentDigits hx
      simp only [List.length_cons]
      omega
    · simp only [Option.some.injEq, Prod.mk.injEq] at h
      simp [← h.2]
  · simp only [Option.some.injEq, Prod.mk.injEq] at h
    simp [← h.2]

theorem length_lt_of_readUnsigned {negative : Bool} {s r : List Char} {n : Numeral}
    (h : readUnsigned negative s = some (n, r)) : r.length < s.length := by
  unfold readUnsigned at h
  split at h
  · next c t =>
    split at h
    · simp at h
    · next hc =>
      simp only [bind, Option.bind_eq_some_iff, pure, Option.some.injEq, Prod.mk.injEq] at h
      obtain ⟨⟨f, u⟩, hf, ⟨e, v⟩, he, _, rfl⟩ := h
      have h1 : u.length ≤ (spanDigits (c :: t)).2.length := length_le_of_readFraction hf
      have h2 : v.length ≤ u.length := length_le_of_readExponent he
      have h3 : (spanDigits (c :: t)).2.length ≤ t.length := by
        have hd : c.isDigit = true := by
          rcases hd : c.isDigit with _ | _
          · simp [hd] at hc
          · rfl
        simpa [spanDigits, hd] using length_spanDigits_le t
      simp only [List.length_cons]
      omega
  · simp at h

theorem length_lt_of_readNumeral {s r : List Char} {n : Numeral}
    (h : readNumeral s = some (n, r)) : r.length < s.length := by
  unfold readNumeral at h
  split at h
  · have := length_lt_of_readUnsigned h
    simp only [List.length_cons]
    omega
  · exact length_lt_of_readUnsigned h

abbrev Shorter (s : List Char) : Type :=
  { r : List Char // r.length < s.length }

mutual

def readValue (s : List Char) : Option (Form × Shorter s) :=
  have hs := length_skip_le s
  match h : skip s with
  | 'n' :: 'u' :: 'l' :: 'l' :: r =>
      some (.null, ⟨r, by simp only [h, List.length_cons] at hs; omega⟩)
  | 't' :: 'r' :: 'u' :: 'e' :: r =>
      some (.bool true, ⟨r, by simp only [h, List.length_cons] at hs; omega⟩)
  | 'f' :: 'a' :: 'l' :: 's' :: 'e' :: r =>
      some (.bool false, ⟨r, by simp only [h, List.length_cons] at hs; omega⟩)
  | '"' :: r =>
      match hr : readPieces r with
      | none => none
      | some (p, t) =>
          some (.string p, ⟨t, by
            have := length_lt_of_readPieces hr
            simp only [h, List.length_cons] at hs
            omega⟩)
  | '[' :: r =>
      have hr := length_skip_le r
      match h' : skip r with
      | ']' :: t =>
          some (.array [], ⟨t, by simp only [h, h', List.length_cons] at hs hr; omega⟩)
      | _ =>
          match readItems r with
          | none => none
          | some (items, t) =>
              some (.array items, ⟨t.1, by
                have := t.2
                simp only [h, List.length_cons] at hs
                omega⟩)
  | '\x7b' :: r =>
      have hr := length_skip_le r
      match h' : skip r with
      | '\x7d' :: t =>
          some (.object [], ⟨t, by simp only [h, h', List.length_cons] at hs hr; omega⟩)
      | _ =>
          match readMembers r with
          | none => none
          | some (members, t) =>
              some (.object members, ⟨t.1, by
                have := t.2
                simp only [h, List.length_cons] at hs
                omega⟩)
  | t =>
      match ht : readNumeral t with
      | none => none
      | some (n, r) =>
          some (.number n, ⟨r, by
            have := length_lt_of_readNumeral ht
            simp only [h] at hs
            omega⟩)
termination_by (s.length, 0)
decreasing_by
  all_goals
    simp only [h, List.length_cons] at hs
    omega

def readItems (s : List Char) : Option (List Form × Shorter s) :=
  match readValue s with
  | none => none
  | some (f, ⟨r, hr⟩) =>
      have hk := length_skip_le r
      match h : skip r with
      | ']' :: t => some ([f], ⟨t, by simp only [h, List.length_cons] at hk; omega⟩)
      | ',' :: t =>
          match readItems t with
          | none => none
          | some (items, u) =>
              some (f :: items, ⟨u.1, by
                have := u.2
                simp only [h, List.length_cons] at hk
                omega⟩)
      | _ => none
termination_by (s.length, 1)
decreasing_by
  · omega
  · simp only [h, List.length_cons] at hk
    omega

def readMembers (s : List Char) : Option (List (List Piece × Form) × Shorter s) :=
  have hs := length_skip_le s
  match h : skip s with
  | '"' :: r =>
      match hp : readPieces r with
      | none => none
      | some (p, t) =>
          have ht := length_lt_of_readPieces hp
          have hk := length_skip_le t
          match h' : skip t with
          | ':' :: u =>
              match readValue u with
              | none => none
              | some (f, ⟨v, hv⟩) =>
                  have hj := length_skip_le v
                  match h'' : skip v with
                  | '\x7d' :: w =>
                      some ([(p, f)], ⟨w, by
                        simp only [h, h', h'', List.length_cons] at hs hk hj
                        omega⟩)
                  | ',' :: w =>
                      match readMembers w with
                      | none => none
                      | some (members, x) =>
                          some ((p, f) :: members, ⟨x.1, by
                            have := x.2
                            simp only [h, h', h'', List.length_cons] at hs hk hj
                            omega⟩)
                  | _ => none
          | _ => none
  | _ => none
termination_by (s.length, 1)
decreasing_by
  · simp only [h, h', List.length_cons] at hs hk
    omega
  · simp only [h, h', h'', List.length_cons] at hs hk hj
    omega

end

/-- The written value that makes up the whole of a text, blanks around it aside. -/
def read? (s : List Char) : Option Form :=
  match readValue s with
  | some (f, r) => if (skip r.1).isEmpty then some f else none
  | none => none

end Form

end ServerLink.Json
