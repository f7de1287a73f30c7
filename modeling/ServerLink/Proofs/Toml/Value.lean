import ServerLink.Proofs.Toml.Rebuild

/-!
Values in TOML read again. What is written of a value that was read is read as a value of the same sense;
the entries of a table in braces may have been put together anew in between.
-/

namespace ServerLink.Toml

/-- What a value begins with. -/
abbrev OpensValue (c : Char) : Prop :=
  (isLineSpace c = false ∧ c ≠ '#' ∧ c ≠ '\n' ∧ c ≠ '\r') ∧ c ≠ ']'

/-- A value that a reader reads again, in front of anything that goes on with no value. -/
structure Value.Rereads (read : ValueReader) (v : Value) : Prop where
  starts : ∃ c w, v.written = c :: w ∧ OpensValue c
  distinct : v.content.Distinct
  again : ∀ q, Follows q → ∃ v' t, read (v.written ++ q) = some (v', t) ∧ t.1 = q ∧
    v'.content.sense = v.content.sense

/-- A reader that reads again what it has read. -/
def ValueReader.Steady (read : ValueReader) : Prop :=
  ∀ {s v t}, read s = some (v, t) → v.Rereads read

theorem Value.Rereads.solid {read : ValueReader} {v : Value} (hv : v.Rereads read) (q : List Char) :
    Solid (v.written ++ q) ∧ (v.written ++ q).head? ≠ some ']' := by
  obtain ⟨c, w, hwritten, hopens⟩ := hv.starts
  rw [hwritten]
  constructor
  · rintro d ⟨⟩
    exact hopens.1
  · exact fun h => hopens.2 (Option.some.inj h)

theorem distinct_of_content? {s : List Char} {c : Content} (h : Scalar.content? s = some c) :
    c.Distinct := by
  unfold Scalar.content? at h
  repeat' split at h
  all_goals
    cases h
    try trivial

theorem opensValue_of_isWordChar {c : Char} (h : Scalar.isWordChar c = true) :
    OpensValue c ∧ (c ≠ '"' ∧ c ≠ '\'') ∧ c ≠ '[' ∧ c ≠ '\x7b' := by
  refine ⟨⟨⟨?_, ?_, ?_, ?_⟩, ?_⟩, ⟨?_, ?_⟩, ?_, ?_⟩
  · refine Bool.eq_false_iff.mpr fun hspace => ?_
    rcases isLineSpace_iff.mp hspace with rfl | rfl <;> cases h
  all_goals
    rintro rfl
    cases h

theorem lt_length_append {w : List Char} (hw : w ≠ []) (q : List Char) :
    q.length < (w ++ q).length := by
  rw [List.length_append]
  exact Nat.lt_add_of_pos_left (List.length_pos_iff.mpr hw)

theorem readValue_word {depth : Nat} {s q : List Char} {v : Value}
    (hword : ∃ c w, s = c :: w ∧ Scalar.isWordChar c = true) (hread : Scalar.read? s = some (v, q))
    (hlt : q.length < s.length) : readValue depth s = some (v, ⟨q, hlt⟩) := by
  obtain ⟨c, w, rfl, hc⟩ := hword
  obtain ⟨-, ⟨hquote, hquote'⟩, hbracket, hbrace⟩ := opensValue_of_isWordChar hc
  unfold readValue
  split <;> simp_all [Shorter.of?_of_lt hlt]

theorem rereads_of_word {depth : Nat} {s : List Char} {v : Value} {rest : List Char}
    (h : Scalar.read? s = some (v, rest)) : v.Rereads (readValue depth) := by
  obtain ⟨-, ⟨c, w, hwritten, hc⟩, hagain⟩ := Scalar.read?_local h
  refine ⟨⟨c, w, hwritten, (opensValue_of_isWordChar hc).1⟩, ?_, fun q hq => ?_⟩
  · obtain ⟨content, hcontent, hpair⟩ := Option.bind_eq_some_iff.mp h
    cases hpair
    exact distinct_of_content? hcontent
  · have hlt : q.length < (v.written ++ q).length :=
      lt_length_append (hwritten ▸ List.cons_ne_nil c w) q
    exact ⟨v, _, readValue_word ⟨c, w ++ q, by rw [hwritten]; rfl, hc⟩ (hagain q hq.closes) hlt, rfl, rfl⟩

theorem readValue_string {depth : Nat} {s text q : List Char} (hopens : Quoted.opensString s)
    (hread : Quoted.read? s = some (text, q)) (hlt : q.length < s.length) :
    readValue depth s =
      some (⟨.string (String.ofList text), writtenBefore s q⟩, ⟨q, hlt⟩) := by
  cases s with
  | nil => simp [Quoted.opensString] at hopens
  | cons c w =>
      rcases hopens with h | h <;>
      · cases h
        simp [readValue, hread, Shorter.of?_of_lt hlt]

theorem rereads_of_string {depth : Nat} {s text rest : List Char}
    (h : Quoted.read? s = some (text, rest)) :
    Value.Rereads (readValue depth) ⟨.string (String.ofList text), writtenBefore s rest⟩ := by
  obtain ⟨w, rfl, hopens, hagain⟩ := Quoted.read?_local h
  rw [writtenBefore_append]
  obtain ⟨c, u, rfl⟩ : ∃ c u, w = c :: u := by
    cases w with
    | nil => simp [Quoted.opensString] at hopens
    | cons c u => exact ⟨c, u, rfl⟩
  refine ⟨⟨c, u, rfl, ?_⟩, trivial, fun q hq => ?_⟩
  · rcases hopens with h | h <;>
    · cases h
      decide
  · have hopens : Quoted.opensString (c :: u ++ q) := hopens
    have hlt : q.length < (c :: u ++ q).length := lt_length_append (List.cons_ne_nil c u) q
    exact ⟨_, _, readValue_string hopens (hagain q hq.unquoted) hlt, rfl, rfl⟩

section Array

variable {read : ValueReader}

theorem readElements_close {s gap r : List Char} (hgap : readGap false s = some (gap, ']' :: r)) :
    readElements read s = some (([], gap ++ [']']), r) := by
  rw [readElements, hgap]
  rfl

theorem readElements_one {s gap r gap' r' : List Char} {v : Value} {t : Shorter r}
    (hgap : readGap false s = some (gap, r)) (hr : r.head? ≠ some ']') (hread : read r = some (v, t))
    (hgap' : readGap false t.1 = some (gap', ']' :: r')) :
    readElements read s = some (([v.content], gap ++ v.written ++ gap' ++ [']']), r') := by
  rw [readElements, hgap]
  simp only [Option.bind_eq_bind, Option.bind_some, hread, hgap']
  split
  · exact absurd rfl hr
  · rfl

theorem readElements_more {s gap r gap' r' q : List Char} {v : Value} {t : Shorter r}
    {contents : List Content} {written : List Char}
    (hgap : readGap false s = some (gap, r)) (hr : r.head? ≠ some ']') (hread : read r = some (v, t))
    (hgap' : readGap false t.1 = some (gap', ',' :: r')) (hlt : r'.length < s.length)
    (hmore : readElements read r' = some ((contents, written), q)) :
    readElements read s =
      some ((v.content :: contents, gap ++ v.written ++ gap' ++ ',' :: written), q) := by
  rw [readElements, hgap]
  simp only [Option.bind_eq_bind, Option.bind_some, hread, hgap']
  split
  · exact absurd rfl hr
  · simp [Shorter.of?_of_lt hlt, hmore]

/-- How the elements of an array are read: there is none, or one, or one with others behind a comma. -/
theorem readElements_inv {s : List Char} {contents : List Content} {written q : List Char}
    (h : readElements read s = some ((contents, written), q)) :
    ∃ gap r, readGap false s = some (gap, r) ∧ r ≠ [] ∧
      (r = ']' :: q ∧ contents = [] ∧ written = gap ++ [']'] ∨
        ∃ v t gap' r', r.head? ≠ some ']' ∧ read r = some (v, t) ∧ readGap false t.1 = some (gap', r') ∧
          (r' = ']' :: q ∧ contents = [v.content] ∧ written = gap ++ v.written ++ gap' ++ [']'] ∨
            ∃ u more written', r' = ',' :: u ∧ u.length < s.length ∧
              readElements read u = some ((more, written'), q) ∧ contents = v.content :: more ∧
              written = gap ++ v.written ++ gap' ++ ',' :: written')) := by
  rw [readElements] at h
  obtain ⟨⟨gap, r⟩, hgap, h⟩ := Option.bind_eq_some_iff.mp h
  dsimp only at h
  split at h
  · cases h
    exact ⟨gap, _, hgap, List.cons_ne_nil _ _, .inl ⟨rfl, rfl, rfl⟩⟩
  · rename_i hbracket
    obtain ⟨⟨v, t⟩, hread, h⟩ := Option.bind_eq_some_iff.mp h
    obtain ⟨⟨gap', r'⟩, hgap', h⟩ := Option.bind_eq_some_iff.mp h
    have hr : r ≠ [] := List.ne_nil_of_length_pos (Nat.zero_lt_of_lt t.2)
    have hhead : r.head? ≠ some ']' := by
      cases r with
      | nil => exact absurd rfl hr
      | cons c r => exact fun h => hbracket r (by rw [Option.some.inj h])
    refine ⟨gap, r, hgap, hr, .inr ⟨v, t, gap', r', hhead, hread, hgap', ?_⟩⟩
    dsimp only at h
    split at h
    · cases h
      exact .inl ⟨rfl, rfl, rfl⟩
    · obtain ⟨rest, hrest, h⟩ := Option.bind_eq_some_iff.mp h
      obtain ⟨⟨⟨more, written'⟩, q'⟩, hmore, h⟩ := Option.bind_eq_some_iff.mp h
      cases h
      have hlt := rest.2
      rw [Shorter.eq_of_of? hrest] at hmore hlt
      exact .inr ⟨_, more, written', rfl, hlt, hmore, rfl, rfl⟩
    · cases h

theorem readElements_again (hsteady : read.Steady) {s : List Char} {contents : List Content}
    {written q : List Char} (h : readElements read s = some ((contents, written), q)) :
    ItemsDistinct contents ∧ ∀ q', ∃ contents' written',
      readElements read (written ++ q') = some ((contents', written'), q') ∧
        itemSenses contents' = itemSenses contents := by
  induction hn : s.length using Nat.strongRecOn generalizing s contents written q with
  | ind n ih =>
      obtain ⟨gap, r, hgap, hr, hempty | ⟨v, t, gap', r', -, hread, hgap', hrest⟩⟩ := readElements_inv h
      · obtain ⟨-, rfl, rfl⟩ := hempty
        refine ⟨trivial, fun q' => ?_⟩
        have hagain : readGap false (gap ++ ']' :: q') = some (gap, ']' :: q') :=
          (isGap_of_readGap hgap hr).readGap (by rintro c ⟨⟩; decide)
        exact ⟨[], _, by simpa using readElements_close hagain, rfl⟩
      · have hv := hsteady hread
        have hagain (u : List Char) : readGap false (gap ++ (v.written ++ u)) =
            some (gap, v.written ++ u) :=
          (isGap_of_readGap hgap hr).readGap (hv.solid u).1
        have hnext {c : Char} (hc : c = ',' ∨ c = ']') {u : List Char} (hr' : r' = c :: u)
            (u' : List Char) : ∃ v' t', read (v.written ++ (gap' ++ c :: u')) = some (v', t') ∧
              readGap false t'.1 = some (gap', c :: u') ∧ v'.content.sense = v.content.sense := by
          have hg : IsGap gap' := isGap_of_readGap hgap' (hr' ▸ List.cons_ne_nil c u)
          obtain ⟨v', t', hread', ht', hsense⟩ := hv.again _ (hg.follows (hc.imp_right .inl) u')
          refine ⟨v', t', hread', ?_, hsense⟩
          rw [ht']
          exact hg.readGap (by rintro d ⟨⟩; rcases hc with rfl | rfl <;> decide)
        rcases hrest with ⟨rfl, rfl, rfl⟩ | ⟨u, more, written', rfl, hlt, hmore, rfl, rfl⟩
        · refine ⟨⟨hv.distinct, trivial⟩, fun q' => ?_⟩
          obtain ⟨v', t', hread', hgap'', hsense⟩ := hnext (.inr rfl) rfl q'
          have hall := readElements_one (hagain _) (hv.solid _).2 hread' hgap''
          exact ⟨[v'.content], _, by simpa using hall, by simp only [itemSenses, hsense]⟩
        · obtain ⟨hdistinct, hmore⟩ := ih u.length (hn ▸ hlt) hmore rfl
          refine ⟨⟨hv.distinct, hdistinct⟩, fun q' => ?_⟩
          obtain ⟨v', t', hread', hgap'', hsense⟩ := hnext (.inl rfl) rfl (written' ++ q')
          obtain ⟨contents', written'', hread'', hsenses⟩ := hmore q'
          have hlt : (written' ++ q').length <
              (gap ++ (v.written ++ (gap' ++ ',' :: (written' ++ q')))).length := by
            simp only [List.length_append, List.length_cons]
            omega
          have hall := readElements_more (hagain _) (hv.solid _).2 hread' hgap'' hlt hread''
          exact ⟨v'.content :: contents', _, by simpa using hall,
            by simp only [itemSenses, hsense, hsenses]⟩

theorem rereads_of_array {depth : Nat} (hsteady : ValueReader.Steady (readValue depth)) {s : List Char}
    {contents : List Content} {written q : List Char}
    (h : readElements (readValue depth) s = some ((contents, written), q)) :
    Value.Rereads (readValue (depth + 1)) ⟨.array contents, '[' :: written⟩ := by
  obtain ⟨hdistinct, hagain⟩ := readElements_again hsteady h
  refine ⟨⟨'[', written, rfl, by decide⟩, hdistinct, fun q' _ => ?_⟩
  obtain ⟨contents', written', hread, hsenses⟩ := hagain q'
  have hlt : q'.length < ('[' :: (written ++ q')).length :=
    lt_length_append (List.cons_ne_nil '[' written) q'
  refine ⟨⟨.array contents', '[' :: written'⟩, ⟨q', hlt⟩, ?_, rfl, congrArg Sense.array hsenses⟩
  simp [readValue, hread, Shorter.of?_of_lt hlt]

end Array

end ServerLink.Toml
