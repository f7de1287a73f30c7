import ServerLink.Proofs.Decimal.Natural
import ServerLink.Proofs.Release.Notice
import ServerLink.Proofs.Text.Blank

namespace ServerLink.Release

open Text

namespace Version

/-- A part of a version: a numeral of a number with 64 bits. -/
def IsPart (s : List Char) (n : Nat) : Prop :=
  Decimal.Denotes s n ∧ n < bound

/-- A text is a version: one to three parts with dots between them, where a missing number counts as zero. -/
inductive Says : List Char → Version → Prop where
  | one {a : List Char} {m : Nat} (ha : IsPart a m) : Says a ⟨m, 0, 0⟩
  | two {a b : List Char} {m n : Nat} (ha : IsPart a m) (hb : IsPart b n) :
      Says (a ++ '.' :: b) ⟨m, n, 0⟩
  | three {a b c : List Char} {m n p : Nat} (ha : IsPart a m) (hb : IsPart b n) (hc : IsPart c p) :
      Says (a ++ '.' :: (b ++ '.' :: c)) ⟨m, n, p⟩

/-- A text denotes a version, blanks around it aside. -/
def Denotes (s : List Char) (v : Version) : Prop :=
  ∃ before core after, (∀ c ∈ before, isBlank c = true) ∧ (∀ c ∈ after, isBlank c = true) ∧
    s = before ++ core ++ after ∧ Says core v

theorem part?_eq_some_iff {s : List Char} {n : Nat} : part? s = some n ↔ IsPart s n :=
  Decimal.readBelow?_eq_some_iff

def isPartChar (c : Char) : Bool :=
  c.isDigit || c == '+'

theorem IsPart.chars {s : List Char} {n : Nat} (h : IsPart s n) : ∀ c ∈ s, isPartChar c = true := by
  intro c hc
  rcases h with ⟨hnumeral, -⟩
  cases hnumeral with
  | plain hne hdigits => simp [isPartChar, hdigits c hc]
  | signed hne hdigits =>
      rcases List.mem_cons.mp hc with rfl | hc
      · rfl
      · simp [isPartChar, hdigits c hc]

theorem not_isBlank_of_isPartChar {c : Char} (h : isPartChar c = true) : isBlank c = false := by
  rcases Bool.or_eq_true_iff.mp h with hdigit | hplus
  · exact not_isBlank_of_isDigit hdigit
  · obtain rfl := beq_iff_eq.mp hplus
    rfl

theorem IsPart.dot_notMem {s : List Char} {n : Nat} (h : IsPart s n) : '.' ∉ s := by
  intro hdot
  cases h.chars _ hdot

theorem Says.not_isBlank {s : List Char} {v : Version} (h : Says s v) : ∀ c ∈ s, isBlank c = false := by
  have hpart {a : List Char} {n : Nat} (ha : IsPart a n) : ∀ c ∈ a, isBlank c = false :=
    fun c hc => not_isBlank_of_isPartChar (ha.chars c hc)
  have hjoin {a b : List Char} (ha : ∀ c ∈ a, isBlank c = false) (hb : ∀ c ∈ b, isBlank c = false) :
      ∀ c ∈ a ++ '.' :: b, isBlank c = false := by
    rw [List.forall_mem_append, List.forall_mem_cons]
    exact ⟨ha, rfl, hb⟩
  cases h with
  | one ha => exact hpart ha
  | two ha hb => exact hjoin (hpart ha) (hpart hb)
  | three ha hb hc => exact hjoin (hpart ha) (hjoin (hpart hb) (hpart hc))

theorem says_of_read? {s : List Char} {v : Version} (h : read? s = some v) : Says (trim s) v := by
  have hjoined := joinWith_splitOn '.' (trim s)
  unfold read? at h
  split at h
  · rename_i a hparts
    obtain ⟨m, ha, hv⟩ := Option.bind_eq_some_iff.mp h
    cases hv
    rw [← hjoined, hparts]
    exact .one (part?_eq_some_iff.mp ha)
  · rename_i a b hparts
    obtain ⟨m, ha, h⟩ := Option.bind_eq_some_iff.mp h
    obtain ⟨n, hb, hv⟩ := Option.bind_eq_some_iff.mp h
    cases hv
    rw [← hjoined, hparts]
    exact .two (part?_eq_some_iff.mp ha) (part?_eq_some_iff.mp hb)
  · rename_i a b c hparts
    obtain ⟨m, ha, h⟩ := Option.bind_eq_some_iff.mp h
    obtain ⟨n, hb, h⟩ := Option.bind_eq_some_iff.mp h
    obtain ⟨p, hc, hv⟩ := Option.bind_eq_some_iff.mp h
    cases hv
    rw [← hjoined, hparts]
    exact .three (part?_eq_some_iff.mp ha) (part?_eq_some_iff.mp hb) (part?_eq_some_iff.mp hc)
  · cases h

theorem read?_of_says {s : List Char} {v : Version} (h : Says (trim s) v) : read? s = some v := by
  generalize hcore : trim s = core at h
  cases h with
  | one ha =>
      simp [read?, hcore, splitOn_of_notMem ha.dot_notMem, part?_eq_some_iff.mpr ha]
  | two ha hb =>
      simp [read?, hcore, splitOn_append ha.dot_notMem, splitOn_of_notMem hb.dot_notMem,
        part?_eq_some_iff.mpr ha, part?_eq_some_iff.mpr hb]
  | three ha hb hc =>
      simp [read?, hcore, splitOn_append ha.dot_notMem, splitOn_append hb.dot_notMem,
        splitOn_of_notMem hc.dot_notMem, part?_eq_some_iff.mpr ha, part?_eq_some_iff.mpr hb,
        part?_eq_some_iff.mpr hc]

theorem read?_eq_some_iff {s : List Char} {v : Version} : read? s = some v ↔ Denotes s v := by
  constructor
  · intro h
    obtain ⟨before, after, hbefore, hafter, hs⟩ := exists_of_trim s
    exact ⟨before, trim s, after, hbefore, hafter, hs, says_of_read? h⟩
  · rintro ⟨before, core, after, hbefore, hafter, rfl, hsays⟩
    refine read?_of_says ?_
    rwa [trim_append_of_blank hafter, trim_blank_append hbefore, trim_of_not_blank hsays.not_isBlank]

theorem Denotes.inRange {s : List Char} {v : Version} (h : Denotes s v) : v.InRange := by
  obtain ⟨_, _, _, _, _, _, hsays⟩ := h
  have hzero : 0 < bound := by decide
  cases hsays with
  | one ha => exact ⟨ha.2, hzero, hzero⟩
  | two ha hb => exact ⟨ha.2, hb.2, hzero⟩
  | three ha hb hc => exact ⟨ha.2, hb.2, hc.2⟩

theorem isPart_digits {n : Nat} (h : n < bound) : IsPart (Decimal.digits n) n :=
  part?_eq_some_iff.mp (Decimal.readBelow?_digits h)

theorem denotes_write {v : Version} (h : v.InRange) : Denotes v.write v := by
  obtain ⟨hmajor, hminor, hpatch⟩ := h
  refine ⟨[], v.write, [], List.forall_mem_nil _, List.forall_mem_nil _, by simp, ?_⟩
  have hsays := Says.three (isPart_digits hmajor) (isPart_digits hminor) (isPart_digits hpatch)
  rw [write, List.append_assoc]
  exact hsays

theorem parse_eq_ok_iff {s : String} {v : Version} : parse s = .ok v ↔ Denotes s.toList v := by
  rw [← read?_eq_some_iff, parse]
  cases read? s.toList <;> simp

theorem parse_eq_error_iff {s : String} {e : InvalidVersion} :
    parse s = .error e ↔ e = ⟨s⟩ ∧ ∀ v, ¬ Denotes s.toList v := by
  simp only [← read?_eq_some_iff, parse]
  cases read? s.toList <;> simp [eq_comm]

theorem toOption_parse (s : String) : (parse s).toOption = read? s.toList := by
  rw [parse]
  cases read? s.toList <;> rfl

theorem parse_text {v : Version} (h : v.InRange) : parse v.text = .ok v := by
  rw [parse_eq_ok_iff, text, String.toList_ofList]
  exact denotes_write h

end Version

namespace Notice

/-- A notice of an update is due. -/
def Updates (previous current : String) : Prop :=
  ∃ version, evaluate (some previous) current = some (.updated version)

theorem evaluate_of_unread {previous current : String} (hne : previous ≠ "")
    (h : Version.read? previous.toList = none ∨ Version.read? current.toList = none) :
    evaluate (some previous) current = none := by
  by_cases hsame : previous = current
  · rw [hsame]
    exact evaluate_self (hsame ▸ hne)
  · rcases h with h | h
    · simp [evaluate, hne, hsame, h]
    · cases hprevious : Version.read? previous.toList <;> simp [evaluate, hne, hsame, h, hprevious]

theorem updates_iff {previous current : String} : Updates previous current ↔
    ∃ u v, Version.read? previous.toList = some u ∧ Version.read? current.toList = some v ∧
      u.rank < v.rank := by
  constructor
  · rintro ⟨version, h⟩
    have hne : previous ≠ "" := by
      rintro rfl
      cases h
    cases hu : Version.read? previous.toList with
    | none => cases (evaluate_of_unread hne (.inl hu)).symm.trans h
    | some u =>
        cases hv : Version.read? current.toList with
        | none => cases (evaluate_of_unread hne (.inr hv)).symm.trans h
        | some v =>
            rw [evaluate_of_read? hu hv] at h
            split at h
            · rename_i hlt
              exact ⟨u, v, rfl, rfl, hlt⟩
            · cases h
  · rintro ⟨u, v, hu, hv, hlt⟩
    exact ⟨current, by rw [evaluate_of_read? hu hv, if_pos hlt]⟩

theorem evaluate_of_updates {previous current : String} (h : Updates previous current) :
    evaluate (some previous) current = some (.updated current) := by
  obtain ⟨u, v, hu, hv, hlt⟩ := updates_iff.mp h
  rw [evaluate_of_read? hu hv, if_pos hlt]

theorem evaluate_of_not_updates {previous current : String} (hne : previous ≠ "")
    (h : ¬ Updates previous current) : evaluate (some previous) current = none := by
  cases hu : Version.read? previous.toList with
  | none => exact evaluate_of_unread hne (.inl hu)
  | some u =>
      cases hv : Version.read? current.toList with
      | none => exact evaluate_of_unread hne (.inr hv)
      | some v =>
          rw [evaluate_of_read? hu hv, if_neg]
          intro hlt
          exact h (updates_iff.mpr ⟨u, v, hu, hv, hlt⟩)

theorem Updates.asymm {a b : String} (hab : Updates a b) : ¬ Updates b a := by
  intro hba
  obtain ⟨u, v, hu, hv, hlt⟩ := updates_iff.mp hab
  obtain ⟨v', u', hv', hu', hgt⟩ := updates_iff.mp hba
  cases hu.symm.trans hu'
  cases hv.symm.trans hv'
  exact absurd hgt hlt.asymm

theorem Updates.trans {a b c : String} (hab : Updates a b) (hbc : Updates b c) : Updates a c := by
  obtain ⟨u, v, hu, hv, huv⟩ := updates_iff.mp hab
  obtain ⟨v', w, hv', hw, hvw⟩ := updates_iff.mp hbc
  cases hv.symm.trans hv'
  exact updates_iff.mpr ⟨u, w, hu, hw, huv.trans hvw⟩

end Notice

/-- A text is parsed exactly where it denotes a version, into that version, and is the error otherwise. A version
that is written is parsed again, so writing what was parsed and parsing it changes nothing. Of two texts at most
one is an update of the other, an update of an update is an update, and only the versions of the texts decide:
where the texts are put in the place of others with the same versions, an update stays one, and a record that is
not empty has no notice but that of an update. -/
theorem texts_are_compared_as_versions :
    (∀ (s : String) (v : Version), Version.parse s = .ok v ↔ Version.Denotes s.toList v) ∧
    (∀ (s : String) (e : InvalidVersion),
      Version.parse s = .error e ↔ e = ⟨s⟩ ∧ ∀ v, ¬ Version.Denotes s.toList v) ∧
    (∀ v : Version, v.InRange → Version.parse v.text = .ok v) ∧
    (∀ (s : String) (v : Version), Version.parse s = .ok v →
      (Version.parse v.text).map Version.text = .ok v.text) ∧
    (∀ a b : String, ¬ (Notice.Updates a b ∧ Notice.Updates b a)) ∧
    (∀ a b c : String, Notice.Updates a b → Notice.Updates b c → Notice.Updates a c) ∧
    (∀ a a' b b' : String, (Version.parse a).toOption = (Version.parse a').toOption →
      (Version.parse b).toOption = (Version.parse b').toOption →
      (Notice.Updates a b ↔ Notice.Updates a' b')) ∧
    ∀ a b : String, a ≠ "" → Notice.evaluate (some a) b = none ∨
      Notice.evaluate (some a) b = some (.updated b) := by
  refine ⟨fun _ _ => Version.parse_eq_ok_iff, fun _ _ => Version.parse_eq_error_iff,
    fun _ => Version.parse_text, fun s v hs => ?_, fun a b => ?_, fun a b c => Notice.Updates.trans,
    fun a a' b b' ha hb => ?_, fun a b ha => ?_⟩
  · have hrange := (Version.parse_eq_ok_iff.mp hs).inRange
    rw [Version.parse_text hrange]
    rfl
  · rintro ⟨hab, hba⟩
    exact hab.asymm hba
  · rw [Version.toOption_parse, Version.toOption_parse] at ha hb
    rw [Notice.updates_iff, Notice.updates_iff, ha, hb]
  · by_cases hupdates : Notice.Updates a b
    · exact .inr (Notice.evaluate_of_updates hupdates)
    · exact .inl (Notice.evaluate_of_not_updates ha hupdates)

theorem texts_are_compared_as_versions_padded :
    Version.parse "\u2003+01.2\n" = .ok ⟨1, 2, 0⟩ ∧
      Version.parse (Version.text ⟨1, 2, 0⟩) = .ok ⟨1, 2, 0⟩ ∧
      ¬ (Notice.Updates "1.2" "\u2003+01.2\n" ∧ Notice.Updates "\u2003+01.2\n" "1.2") := by
  obtain ⟨hparse, -, hwritten, -, hasymm, -⟩ := texts_are_compared_as_versions
  refine ⟨(hparse _ _).mpr ?_, hwritten _ ⟨by decide, by decide, by decide⟩, hasymm _ _⟩
  exact ⟨['\u2003'], "+01.2".toList, ['\n'], List.all_eq_true.mp rfl, List.all_eq_true.mp rfl, rfl,
    .two ⟨.signed (s := ['0', '1']) (by decide) (List.all_eq_true.mp rfl), by decide⟩
      ⟨.plain (s := ['2']) (by decide) (List.all_eq_true.mp rfl), by decide⟩⟩

end ServerLink.Release
