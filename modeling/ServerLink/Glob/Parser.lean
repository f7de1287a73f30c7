import ServerLink.Glob.Basic
/-!
The written form of patterns. A question mark stands for a byte and a star for any bytes; two stars that
fill a place between slashes stand for directories; brackets hold a class of bytes, braces hold
alternatives, and a backslash takes the meaning from the character behind it.
-/

namespace ServerLink.Glob

inductive ParseError where
  | unclosedClass
  | invertedRange (low high : Char)
  | unopenedAlternatives
  | unclosedAlternatives
  | danglingEscape
  deriving DecidableEq, Repr

def ParseError.reason : ParseError → String
  | .unclosedClass => "unclosed character class; missing ']'"
  | .invertedRange low high =>
      "invalid range; '" ++ String.ofList [low] ++ "' > '" ++ String.ofList [high] ++ "'"
  | .unopenedAlternatives =>
      "unopened alternate group; missing '\x7b' (maybe escape '\x7d' with '[\x7d]'?)"
  | .unclosedAlternatives =>
      "unclosed alternate group; missing '\x7d' (maybe escape '\x7b' with '[\x7b]'?)"
  | .danglingEscape => "dangling '\\'"

/-- An open group of alternatives: the tokens before it, and its finished branches, both reversed. -/
structure OpenGroup where
  before : List Token
  branches : List (List Token)
  deriving Inhabited

structure Progress where
  /-- The tokens of the innermost branch, reversed. -/
  tokens : List Token := []
  /-- The open groups, the innermost first. -/
  groups : List OpenGroup := []
  previous : Option Char := none
  deriving Inhabited

def Progress.push (p : Progress) (t : Token) (last : Char) : Progress :=
  { p with tokens := t :: p.tokens, previous := some last }

/-- How far a class is read: its ranges, the last one first, and whether a hyphen waits for the end of
the last range. -/
structure ClassProgress where
  ranges : List (Char × Char) := []
  waiting : Bool := false

def ClassProgress.extend (p : ClassProgress) (c : Char) : Except ParseError ClassProgress :=
  match p.ranges with
  | [] => .ok ⟨[(c, c)], false⟩
  | (low, _) :: ranges =>
      if c < low then .error (.invertedRange low c) else .ok ⟨(low, c) :: ranges, false⟩

/-- The ranges of a class whose text is finished. A hyphen at the end stands for itself. -/
def ClassProgress.finish (p : ClassProgress) : List (Char × Char) :=
  (if p.waiting then ('-', '-') :: p.ranges else p.ranges).reverse

/-- Reads a class up to its bracket, which stands for itself at the start, and gives the ranges and what
stands behind it. -/
def readClass (first : Bool) (p : ClassProgress) :
    List Char → Except ParseError (List (Char × Char) × List Char)
  | [] => .error .unclosedClass
  | c :: s =>
      if c = ']' ∧ !first then .ok (p.finish, s)
      else if c = '-' ∧ !first ∧ !p.waiting then readClass false { p with waiting := true } s
      else if p.waiting then do readClass false (← p.extend c) s
      else readClass false { p with ranges := (c, c) :: p.ranges } s

theorem length_lt_of_readClass {first : Bool} {p : ClassProgress} {s r : List Char}
    {ranges : List (Char × Char)} (h : readClass first p s = .ok (ranges, r)) :
    r.length < s.length := by
  induction s generalizing first p with
  | nil => simp [readClass] at h
  | cons c s ih =>
      simp only [readClass] at h
      split at h
      · simp only [Except.ok.injEq, Prod.mk.injEq] at h
        simp [h.2]
      · split at h
        · exact Nat.lt_succ_of_lt (ih h)
        · split at h
          · cases hp : p.extend c with
            | error e => simp [hp, bind, Except.bind] at h
            | ok q => exact Nat.lt_succ_of_lt (ih (by simpa [hp, bind, Except.bind] using h))
          · exact Nat.lt_succ_of_lt (ih h)

def readClassToken (s : List Char) : Except ParseError (Token × List Char) :=
  match s with
  | '!' :: r | '^' :: r => (readClass true {} r).map fun p => (.byteClass true p.1, p.2)
  | _ => (readClass true {} s).map fun p => (.byteClass false p.1, p.2)

theorem length_lt_of_readClassToken {s r : List Char} {t : Token}
    (h : readClassToken s = .ok (t, r)) : r.length < s.length := by
  have drop : ∀ {q : List Char} {negated : Bool},
      (readClass true {} q).map (fun p => (Token.byteClass negated p.1, p.2)) = .ok (t, r) →
      r.length < q.length := by
    intro q negated h
    cases hq : readClass true {} q with
    | error e => simp [hq, Except.map] at h
    | ok p =>
        simp only [hq, Except.map, Except.ok.injEq, Prod.mk.injEq] at h
        rw [← h.2]
        exact length_lt_of_readClass hq
  unfold readClassToken at h
  split at h
  · exact Nat.lt_succ_of_lt (drop h)
  · exact Nat.lt_succ_of_lt (drop h)
  · exact drop h

/-- What two stars become, from what stands before and behind them, and whether they take the slash
behind them. Inside a group a comma or a brace bounds their place as a slash does. -/
def doubleStar (p : Progress) (next : Option Char) : Progress × Bool :=
  let star := fun p : Progress => (p.push .anyBytes '*').push .anyBytes '*'
  let grouped := !p.groups.isEmpty
  if p.tokens.isEmpty then
    match next with
    | none => (p.push .leadingDirectories '*', false)
    | some '/' => (p.push .leadingDirectories '/', true)
    | some _ => (star p, false)
  else if p.previous ≠ some '/' ∧
      !(grouped && (p.previous = some ',' || p.previous = some '\x7b')) then (star p, false)
  else
    let replace := fun (t : Token) (last : Char) =>
      match p.tokens with
      | .leadingDirectories :: _ | .directoryContent :: _ => { p with previous := some last }
      | _ :: ts => { p with tokens := t :: ts, previous := some last }
      | [] => p
    match next with
    | none => (replace .directoryContent '*', false)
    | some '/' => (replace .innerDirectories '/', true)
    | some c =>
        if grouped ∧ (c = ',' ∨ c = '\x7d') then (replace .directoryContent '*', false)
        else (star p, false)

def readTokens (p : Progress) (s : List Char) : Except ParseError (List Token) :=
  match s with
  | [] => if p.groups.isEmpty then .ok p.tokens.reverse else .error .unclosedAlternatives
  | '?' :: r => readTokens (p.push .anyByte '?') r
  | '*' :: '*' :: r =>
      let (q, takesSlash) := doubleStar p r.head?
      readTokens q (r.drop (if takesSlash then 1 else 0))
  | '*' :: r => readTokens (p.push .anyBytes '*') r
  | '[' :: r =>
      match h : readClassToken r with
      | .error e => .error e
      | .ok (t, rest) =>
          have := length_lt_of_readClassToken h
          readTokens (p.push t ']') rest
  | '\x7b' :: r =>
      readTokens ⟨[], ⟨p.tokens, []⟩ :: p.groups, some '\x7b'⟩ r
  | '\x7d' :: r =>
      match p.groups with
      | [] => .error .unopenedAlternatives
      | g :: gs =>
          let branches := (p.tokens.reverse :: g.branches).reverse
          readTokens ⟨.alternatives branches :: g.before, gs, some '\x7d'⟩ r
  | ',' :: r =>
      match p.groups with
      | [] => readTokens (p.push (.literal ',') ',') r
      | g :: gs => readTokens ⟨[], ⟨g.before, p.tokens.reverse :: g.branches⟩ :: gs, some ','⟩ r
  | ['\\'] => .error .danglingEscape
  | '\\' :: c :: r => readTokens (p.push (.literal c) c) r
  | c :: r => readTokens (p.push (.literal c) c) r
termination_by s.length
decreasing_by
  all_goals simp only [List.length_cons, List.length_drop]
  all_goals omega

def parse (pattern : String) : Except ParseError Glob :=
  (readTokens {} pattern.toList).map Glob.mk

end ServerLink.Glob
