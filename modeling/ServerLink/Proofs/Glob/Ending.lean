import Mathlib.Data.List.Forall2
import Mathlib.Data.List.Infix
import ServerLink.Glob.Collection

namespace ServerLink.Glob

theorem behind?_append (a b : List UInt8) (p : Place) :
    Place.behind? (a ++ b) p = (Place.behind? a p).bind (Place.behind? b) := by
  induction a generalizing p with
  | nil => rfl
  | cons byte a ih =>
      simp only [List.cons_append, Place.behind?, Option.bind_assoc]
      exact congrArg _ (funext ih)

theorem next?_beq_eq_some_iff {b : UInt8} {p q : Place} :
    p.next? (· == b) = some q ↔ p.rest = b :: q.rest ∧ q.offset = p.offset + 1 := by
  obtain ⟨m, s⟩ := p
  obtain ⟨n, r⟩ := q
  cases s with
  | nil => simp [Place.next?]
  | cons c s =>
      by_cases hc : c = b
      · simp [Place.next?, hc, and_comm, eq_comm]
      · simp [Place.next?, hc]

theorem behind?_eq_some_iff {bytes : List UInt8} {p q : Place} :
    p.behind? bytes = some q ↔ p.rest = bytes ++ q.rest ∧ q.offset = p.offset + bytes.length := by
  induction bytes generalizing p with
  | nil =>
      obtain ⟨m, s⟩ := p
      obtain ⟨n, r⟩ := q
      simp [Place.behind?, and_comm, eq_comm]
  | cons b bytes ih =>
      simp only [Place.behind?, Option.bind_eq_some_iff, next?_beq_eq_some_iff, ih]
      constructor
      · rintro ⟨mid, ⟨hp, hmid⟩, hrest, hq⟩
        refine ⟨by simp [hp, hrest], ?_⟩
        simp only [List.length_cons]
        omega
      · rintro ⟨hp, hq⟩
        refine ⟨⟨p.offset + 1, bytes ++ q.rest⟩, ⟨hp, rfl⟩, rfl, ?_⟩
        rw [hq, List.length_cons, Nat.add_right_comm, Nat.add_assoc]

theorem map_rest_placesFrom (n : Nat) (s : List UInt8) :
    (placesFrom n s).map Place.rest = s.tails := by
  induction s generalizing n with
  | nil => rfl
  | cons b s ih => simp [placesFrom, ih]

theorem lt_of_mem_placesBehindSlashes {n : Nat} {s : List UInt8} {p : Place}
    (h : p ∈ placesBehindSlashes n s) : n < p.offset := by
  induction s generalizing n with
  | nil => simp [placesBehindSlashes] at h
  | cons b s ih =>
      unfold placesBehindSlashes at h
      split at h
      · rcases List.mem_cons.mp h with rfl | h
        · exact Nat.lt_succ_self n
        · exact Nat.lt_of_succ_lt (ih h)
      · exact Nat.lt_of_succ_lt (ih h)

/-- From one place, any directories lead to that place and to places behind it. -/
theorem throughDirectories_singleton (p : Place) :
    throughDirectories [p] = p :: once (placesBehindSlashes p.offset p.rest) := by
  have hbehind : ∀ q ∈ placesBehindSlashes p.offset p.rest, p.offset < q.offset :=
    fun _ => lt_of_mem_placesBehindSlashes
  rw [throughDirectories, unite]
  generalize placesBehindSlashes p.offset p.rest = qs at hbehind
  cases qs with
  | nil => simp [once]
  | cons q qs =>
      have hlt : p.offset < q.offset := hbehind q List.mem_cons_self
      simp [once, hlt.le, hlt.ne]

theorem leadRow_literals (w : List Char) (ps : List Place) :
    leadRow (w.map .literal) ps = ps.filterMap (Place.behind? (Text.Utf8.encode w)) := by
  induction w generalizing ps with
  | nil => simp [leadRow, Place.behind?]
  | cons c w ih =>
      simp only [List.map_cons, leadRow, Token.lead, ih, List.filterMap_filterMap,
        Text.Utf8.encode_cons, behind?_append]

def ending (w : List Char) : Glob :=
  ⟨.leadingDirectories :: .anyBytes :: w.map .literal⟩

theorem leadRow_ending (w : List Char) (path : List UInt8) :
    leadRow (ending w).tokens [⟨0, path⟩] =
      (placesFrom 0 path).filterMap (Place.behind? (Text.Utf8.encode w)) := by
  simp only [ending, leadRow, Token.lead, throughDirectories_singleton, onward, leadRow_literals]

/-- The pattern leads to the end of a path from the places behind which only the text is left. -/
theorem any_isEmpty_leadRow_ending (w : List Char) (path : List UInt8) :
    (leadRow (ending w).tokens [⟨0, path⟩]).any (·.rest.isEmpty) = true ↔
      Text.Utf8.encode w <:+ path := by
  rw [leadRow_ending, ← List.mem_tails, ← map_rest_placesFrom 0 path]
  simp only [List.any_eq_true, List.mem_filterMap, List.isEmpty_iff, List.mem_map,
    behind?_eq_some_iff]
  constructor
  · rintro ⟨q, ⟨p, hp, hrest, -⟩, hq⟩
    exact ⟨p, hp, by rw [hrest, hq, List.append_nil]⟩
  · rintro ⟨p, hp, hrest⟩
    exact ⟨⟨p.offset + (Text.Utf8.encode w).length, []⟩, ⟨p, hp, by simp [hrest], rfl⟩, rfl⟩

theorem matchesUpward_ending {w : List Char} (hw : w ≠ ['.'])
    (hdot : (ending w).tokens.getLast?.any (Token.isChar '.') = true) :
    matchesUpward (ending w).tokens = true := by
  have hlength : 1 < w.length := by
    match w, hw, hdot with
    | [], _, hdot => simp [ending, Token.isChar] at hdot
    | [c], hw, hdot =>
        have hc : '.' = c := by simpa [ending, Token.isChar] using hdot
        exact absurd (by rw [hc]) hw
    | _ :: _ :: _, _, _ => simp
  simp [matchesUpward, ending, splitText, Token.isLiteral, hlength]

/-- The dot alone is left out: it is no extension of a path that ends in an upward step. -/
theorem isMatch_ending {w : List Char} (hw : w ≠ ['.']) (path : List UInt8) :
    (ending w).isMatch path = true ↔ Text.Utf8.encode w <:+ path := by
  have hguard : (!endsUpward path || !(ending w).tokens.getLast?.any (Token.isChar '.') ||
      matchesUpward (ending w).tokens) = true := by
    cases hdot : (ending w).tokens.getLast?.any (Token.isChar '.') with
    | true => simp [matchesUpward_ending hw hdot]
    | false => simp
  rw [← any_isEmpty_leadRow_ending, isMatch]
  split
  · rename_i htokens
    simp [ending] at htokens
  · rw [hguard, Bool.and_true]

/-- The characters that mean something else in the written form of a pattern. -/
def signs : List Char :=
  ['?', '*', '[', '\x7b', '\x7d', ',', '\\']

def isPlain (c : Char) : Bool :=
  !signs.contains c

theorem readTokens_plain {w : List Char} (hplain : w.all isPlain = true) (p : Progress)
    (hgroups : p.groups = []) :
    readTokens p w = .ok (p.tokens.reverse ++ w.map .literal) := by
  induction w generalizing p with
  | nil => simp [readTokens, hgroups]
  | cons c w ih =>
      rw [List.all_cons, Bool.and_eq_true] at hplain
      obtain ⟨hc, hw⟩ := hplain
      have hpush := ih hw (p.push (.literal c) c) hgroups
      rw [readTokens, hpush]
      · simp [Progress.push]
      all_goals simp_all [isPlain, signs]

def writtenEnding (w : List Char) : String :=
  String.ofList ('*' :: '*' :: '/' :: '*' :: w)

theorem parse_writtenEnding {w : List Char} (hplain : w.all isPlain = true) :
    parse (writtenEnding w) = .ok (ending w) := by
  have hstars : readTokens {} ('*' :: '*' :: '/' :: '*' :: w) =
      readTokens (({} : Progress).push .leadingDirectories '/') ('*' :: w) := by
    rw [readTokens]
    rfl
  have hstar : readTokens (({} : Progress).push .leadingDirectories '/') ('*' :: w) =
      readTokens ((({} : Progress).push .leadingDirectories '/').push .anyBytes '*') w := by
    rw [readTokens]
    rintro r rfl
    simp [isPlain, signs] at hplain
  have hw := readTokens_plain hplain
    ((({} : Progress).push .leadingDirectories '/').push .anyBytes '*') rfl
  rw [parse, writtenEnding, String.toList_ofList, hstars, hstar, hw]
  rfl

theorem depth_ending (w : List Char) : (ending w).depth = 5 := by
  have hliterals : deepest (w.map .literal) = 0 := by
    induction w with
    | nil => rfl
    | cons c w ih => simp [deepest, Token.depth, ih]
  simp [depth, ending, deepest, Token.depth, hliterals]

theorem mapM_parseOne {patterns : List String} {globs : List Glob}
    (h : List.Forall₂ (fun s g => parse s = .ok g) patterns globs) :
    patterns.mapM parseOne = .ok globs := by
  induction h with
  | nil => rfl
  | cons hparse _ ih =>
      rw [List.mapM_cons, parseOne, hparse, ih]
      rfl

theorem parseAll_writtenEndings {ws : List (List Char)} (hplain : ∀ w ∈ ws, w.all isPlain = true) :
    parseAll (ws.map writtenEnding) = .ok (ws.map ending) := by
  have hparse : (ws.map writtenEnding).mapM parseOne = .ok (ws.map ending) := by
    refine mapM_parseOne ?_
    rw [List.forall₂_map_left_iff, List.forall₂_map_right_iff, List.forall₂_same]
    exact fun w hw => parse_writtenEnding (hplain w hw)
  have hshallow : ∀ kind : Keeping, ∀ g ∈ (ws.map ending).filter (keeping · = kind),
      ¬ greatestDepth < g.depth := by
    intro kind g hg
    obtain ⟨w, -, rfl⟩ := List.mem_map.mp (List.mem_filter.mp hg).1
    rw [depth_ending]
    decide
  have hfind : ((ws.map ending).filter (keeping · = .byExtension)).find?
      (fun g => greatestDepth < g.depth) = none := by
    simpa [List.find?_eq_none] using hshallow .byExtension
  have hfindIdx : ((ws.map ending).filter (keeping · = .together)).findIdx?
      (fun g => greatestDepth < g.depth) = none := by
    simpa [List.findIdx?_eq_none_iff] using hshallow .together
  unfold parseAll
  rw [hparse]
  simp only [bind, Except.bind, hfind, hfindIdx]
  rfl

theorem anyMatch_endings {ws : List (List Char)} (hdot : ['.'] ∉ ws) (path : List UInt8) :
    anyMatch (ws.map ending) path = true ↔ ∃ w ∈ ws, Text.Utf8.encode w <:+ path := by
  simp only [anyMatch, List.any_eq_true, List.mem_map, exists_exists_and_eq_and]
  refine exists_congr fun w => and_congr_right fun hw => isMatch_ending ?_ path
  rintro rfl
  exact hdot hw

end ServerLink.Glob
