import ServerLink.Proofs.Toml.Space

namespace ServerLink.Toml

theorem writtenBefore_append (w r : List Char) : writtenBefore (w ++ r) r = w := by
  simp [writtenBefore]

/-- What a key begins with. -/
def opensName (c : Char) : Bool :=
  isBareChar c || c == '"' || c == '\''

/-- A text that does not go on with a key without quotes. -/
def ClosesName (s : List Char) : Prop :=
  ∀ c ∈ s.head?, isBareChar c = false

/-- A key that is read again from its written form, with nothing but space around it. -/
structure Key.Good (k : Key) : Prop where
  starts : ∃ c w, k.written = c :: w ∧ opensName c = true
  reads : ∀ s, ClosesName s → readName (k.written ++ s) = some ((k.name, k.written), s)
  innerBefore : Blank k.inner.before
  innerAfter : Blank k.inner.after
  outerAfter : Blank k.outer.after

theorem readName_bare {w s : List Char} (hne : w ≠ []) (hw : ∀ c ∈ w, isBareChar c = true)
    (hs : ClosesName s) : readName (w ++ s) = some ((String.ofList w, w), s) := by
  have hspan := Text.span_append hw hs
  cases w with
  | nil => exact absurd rfl hne
  | cons c w =>
      have hc := hw c List.mem_cons_self
      unfold readName
      split
      · rename_i heq
        cases heq
        cases hc
      · rename_i heq
        cases heq
        cases hc
      · rw [hspan]
        rfl

/-- A key that was read is read again in front of anything that does not go on with it. -/
theorem readName_local {s w r : List Char} {name : String} (h : readName s = some ((name, w), r)) :
    s = w ++ r ∧ (∃ c u, w = c :: u ∧ opensName c = true) ∧
      ∀ q, ClosesName q → readName (w ++ q) = some ((name, w), q) := by
  unfold readName at h
  split at h
  · obtain ⟨⟨t, u⟩, hread, heq⟩ := Option.map_eq_some_iff.mp h
    obtain ⟨v, rfl, -, hv⟩ := Quoted.readBasic_local hread
    have hwritten (q : List Char) : writtenBefore ('"' :: (v ++ q)) q = '"' :: v :=
      writtenBefore_append ('"' :: v) q
    rw [hwritten] at heq
    cases heq
    exact ⟨rfl, ⟨'"', v, rfl, rfl⟩, fun q _ => by simp [readName, hv, hwritten]⟩
  · obtain ⟨⟨t, u⟩, hread, heq⟩ := Option.map_eq_some_iff.mp h
    obtain ⟨v, rfl, -, hv⟩ := Quoted.readLiteral_local hread
    have hwritten (q : List Char) : writtenBefore ('\'' :: (v ++ q)) q = '\'' :: v :=
      writtenBefore_append ('\'' :: v) q
    rw [hwritten] at heq
    cases heq
    exact ⟨rfl, ⟨'\'', v, rfl, rfl⟩, fun q _ => by simp [readName, hv, hwritten]⟩
  · cases hspan : s.span isBareChar with
    | mk bare rest =>
        rw [hspan] at h
        obtain ⟨rfl, hbare, -⟩ := Text.of_span hspan
        simp only [List.isEmpty_iff] at h
        split at h
        · cases h
        · rename_i hne
          cases h
          obtain ⟨c, u, rfl⟩ := List.exists_cons_of_ne_nil hne
          refine ⟨rfl, ⟨c, u, rfl, ?_⟩, fun q hq => readName_bare hne hbare hq⟩
          simp [opensName, hbare c List.mem_cons_self]

theorem good_of_readName {s w r before after : List Char} {name : String}
    (h : readName s = some ((name, w), r)) (hbefore : Blank before) (hafter : Blank after) :
    Key.Good { name, written := w, inner := ⟨before, after⟩ } := by
  obtain ⟨-, hstarts, hreads⟩ := readName_local h
  exact ⟨hstarts, hreads, hbefore, hafter, by simp [Blank, isLineSpace]⟩

theorem good_bare {name : String} (hne : name.toList ≠ [])
    (hname : ∀ c ∈ name.toList, isBareChar c = true) : Key.Good { name, written := name.toList } := by
  refine ⟨?_, fun s hs => ?_, blank_nil, blank_nil, by simp [Blank, isLineSpace]⟩
  · obtain ⟨c, w, hw⟩ := List.exists_cons_of_ne_nil hne
    refine ⟨c, w, hw, ?_⟩
    simp [opensName, hname c (hw ▸ List.mem_cons_self)]
  · simpa using readName_bare hne hname hs

theorem Shorter.eq_of_of? {s r : List Char} {t : Shorter s} (h : Shorter.of? s r = some t) :
    t.1 = r := by
  unfold Shorter.of? at h
  split at h
  · cases h
    rfl
  · cases h

theorem Shorter.of?_of_lt {s r : List Char} (h : r.length < s.length) :
    Shorter.of? s r = some ⟨r, h⟩ :=
  dif_pos h

/-- How the first key of a path is cut off: space, its name, space, and the rest. -/
structure CutsKey (s : List Char) (key : Key) (rest : List Char) : Prop where
  cuts : ∃ r u, splitSpace s = (key.inner.before, r) ∧ readName r = some ((key.name, key.written), u) ∧
    splitSpace u = (key.inner.after, rest)
  plain : key.outer = { after := [' '] }

theorem CutsKey.good {s rest : List Char} {key : Key} (h : CutsKey s key rest) : key.Good := by
  obtain ⟨r, u, hbefore, hname, hafter⟩ := h.cuts
  obtain ⟨-, hblank, -⟩ := of_splitSpace hbefore
  obtain ⟨-, hblank', -⟩ := of_splitSpace hafter
  have hgood := good_of_readName hname hblank hblank'
  exact ⟨hgood.starts, hgood.reads, hblank, hblank', by
    rw [h.plain]
    exact hgood.outerAfter⟩

theorem readKeys_inv {s : List Char} {keys : List Key} {t : Shorter s}
    (h : readKeys s = some (keys, t)) :
    ∃ key rest, CutsKey s key rest ∧ rest.length < s.length ∧
      (keys = [key] ∧ t.1 = rest ∨
        ∃ r more u, rest = '.' :: r ∧ readKeys r = some (more, u) ∧ keys = key :: more ∧ t.1 = u.1) := by
  rw [readKeys] at h
  obtain ⟨⟨⟨name, written⟩, u⟩, hname, h⟩ := Option.bind_eq_some_iff.mp h
  obtain ⟨rest, hrest, h⟩ := Option.bind_eq_some_iff.mp h
  have hrest := Shorter.eq_of_of? hrest
  refine ⟨{ name, written, inner := ⟨(splitSpace s).1, (splitSpace u).1⟩ }, rest.1,
    ⟨⟨(splitSpace s).2, u, rfl, hname, Prod.ext rfl hrest.symm⟩, rfl⟩, rest.2, ?_⟩
  dsimp only at h
  split at h
  · rename_i r hdot
    obtain ⟨⟨more, v⟩, hmore, heq⟩ := Option.bind_eq_some_iff.mp h
    cases heq
    exact .inr ⟨r, more, v, hdot, hmore, rfl, rfl⟩
  · cases h
    exact .inl ⟨rfl, rfl⟩

theorem CutsKey.eq {s rest : List Char} {key : Key} (h : CutsKey s key rest) :
    key = { name := key.name, written := key.written,
            inner := ⟨key.inner.before, key.inner.after⟩ } := by
  obtain ⟨name, written, inner, outer⟩ := key
  cases h.plain
  rfl

theorem readKeys_one {s rest : List Char} {key : Key} (h : CutsKey s key rest)
    (hlt : rest.length < s.length) (hdot : rest.head? ≠ some '.') :
    readKeys s = some ([key], ⟨rest, hlt⟩) := by
  obtain ⟨r, u, hbefore, hname, hafter⟩ := h.cuts
  rw [readKeys, hbefore]
  simp only [hname, hafter, Shorter.of?_of_lt hlt, Option.bind_eq_bind, Option.bind_some]
  split
  · exact absurd rfl hdot
  · rw [← h.eq]
    rfl

theorem readKeys_more {s r : List Char} {key : Key} {more : List Key} {u : Shorter r}
    (h : CutsKey s key ('.' :: r)) (hlt : ('.' :: r).length < s.length)
    (hmore : readKeys r = some (more, u)) :
    ∃ t, readKeys s = some (key :: more, t) ∧ t.1 = u.1 := by
  obtain ⟨r, u, hbefore, hname, hafter⟩ := h.cuts
  rw [readKeys, hbefore]
  simp only [hname, hafter, Shorter.of?_of_lt hlt, Option.bind_eq_bind, Option.bind_some, hmore]
  rw [← h.eq]
  exact ⟨_, rfl, rfl⟩

theorem readKeys_good {s : List Char} {keys : List Key} {t : Shorter s}
    (h : readKeys s = some (keys, t)) : keys ≠ [] ∧ ∀ k ∈ keys, k.Good ∧ Blank k.outer.before := by
  induction hn : s.length using Nat.strongRecOn generalizing s keys with
  | ind n ih =>
      obtain ⟨key, rest, hcuts, hlt, hmore⟩ := readKeys_inv h
      have hkey : key.Good ∧ Blank key.outer.before := ⟨hcuts.good, hcuts.plain ▸ blank_nil⟩
      obtain ⟨rfl, -⟩ | ⟨r, more, u, rfl, hmore, rfl, -⟩ := hmore
      · simpa using hkey
      · have hlt : r.length < n := by
          rw [List.length_cons] at hlt
          omega
        obtain ⟨-, hgood⟩ := ih r.length hlt hmore rfl
        exact ⟨nofun, List.forall_mem_cons.mpr ⟨hkey, hgood⟩⟩

theorem ne_of_opensName {c : Char} (h : opensName c = true) :
    (isLineSpace c = false ∧ c ≠ '#' ∧ c ≠ '\n' ∧ c ≠ '\r') ∧ c ≠ '[' ∧ c ≠ '\x7d' := by
  refine ⟨⟨?_, ?_, ?_, ?_⟩, ?_, ?_⟩
  · refine Bool.eq_false_iff.mpr fun hspace => ?_
    rcases isLineSpace_iff.mp hspace with rfl | rfl <;> cases h
  all_goals
    rintro rfl
    cases h

theorem Key.Good.not_space {k : Key} (hk : k.Good) (s : List Char) :
    ∀ c ∈ (k.written ++ s).head?, isLineSpace c = false := by
  obtain ⟨d, w, hwritten, hopens⟩ := hk.starts
  rw [hwritten]
  rintro c ⟨⟩
  exact (ne_of_opensName hopens).1.1

theorem Key.Good.cutsKey {k : Key} (hk : k.Good) {before after rest : List Char}
    (hbefore : Blank before) (hafter : Blank after) (hrest : ∀ c ∈ rest.head?, isLineSpace c = false)
    (hcloses : ClosesName (after ++ rest)) :
    CutsKey (before ++ (k.written ++ (after ++ rest)))
      { name := k.name, written := k.written, inner := ⟨before, after⟩ } rest :=
  ⟨⟨_, _, splitSpace_append hbefore (hk.not_space _), hk.reads _ hcloses,
    splitSpace_append hafter hrest⟩, rfl⟩

theorem closesName_append {b s : List Char} (hb : Blank b) (hs : ClosesName s) : ClosesName (b ++ s) := by
  cases b with
  | nil => exact hs
  | cons c b =>
      rintro d ⟨⟩
      rcases isLineSpace_iff.mp (hb c List.mem_cons_self) with rfl | rfl <;> rfl

/-- What stands behind a path. -/
def EndsPath (s : List Char) : Prop :=
  s.head? = some '=' ∨ s.head? = some ']'

theorem EndsPath.head {s : List Char} (hs : EndsPath s) :
    ∀ c ∈ s.head?, isLineSpace c = false ∧ isBareChar c = false ∧ c ≠ '.' := by
  intro c hc
  rcases hs with h | h <;>
  · rw [Option.mem_def, h] at hc
    cases hc
    decide

theorem readKeys_writeKeys {ks : List Key} {k : Key} (hk : k.Good) (hks : ∀ l ∈ ks, l.Good)
    {before rest : List Char} (hbefore : Blank before) (hrest : EndsPath rest) :
    ∃ keys t, readKeys (before ++ (writeKeys k ks ++ rest)) = some (keys, t) ∧ t.1 = rest ∧
      keys.map (·.name) = (k :: ks).map (·.name) := by
  induction ks generalizing k before with
  | nil =>
      rw [writeKeys, List.append_assoc]
      have hcuts := hk.cutsKey hbefore hk.outerAfter (fun c hc => (hrest.head c hc).1)
        (closesName_append hk.outerAfter fun c hc => (hrest.head c hc).2.1)
      have hlt : rest.length < (before ++ (k.written ++ (k.outer.after ++ rest))).length := by
        obtain ⟨c, w, hwritten, -⟩ := hk.starts
        simp only [List.length_append, hwritten, List.length_cons]
        omega
      have hdot : rest.head? ≠ some '.' := fun h => (hrest.head '.' h).2.2 rfl
      exact ⟨_, _, readKeys_one hcuts hlt hdot, rfl, rfl⟩
  | cons l ks ih =>
      obtain ⟨hl, hks⟩ := List.forall_mem_cons.mp hks
      obtain ⟨more, u, hmore, hu, hnames⟩ := ih hl hks hl.innerBefore
      have hdot : ∀ c ∈ ('.' :: (l.inner.before ++ (writeKeys l ks ++ rest))).head?,
          isLineSpace c = false ∧ isBareChar c = false := by
        rintro c ⟨⟩
        decide
      have hcuts := hk.cutsKey hbefore hk.innerAfter (fun c hc => (hdot c hc).1)
        (closesName_append hk.innerAfter fun c hc => (hdot c hc).2)
      have hwritten : before ++ (writeKeys k (l :: ks) ++ rest) =
          before ++ (k.written ++ (k.inner.after ++
            '.' :: (l.inner.before ++ (writeKeys l ks ++ rest)))) := by
        simp [writeKeys]
      have hlt : ('.' :: (l.inner.before ++ (writeKeys l ks ++ rest))).length <
          (before ++ (k.written ++ (k.inner.after ++
            '.' :: (l.inner.before ++ (writeKeys l ks ++ rest))))).length := by
        obtain ⟨c, w, hwritten, -⟩ := hk.starts
        simp only [List.length_append, hwritten, List.length_cons]
        omega
      obtain ⟨t, ht, hrest'⟩ := readKeys_more hcuts hlt hmore
      rw [hwritten]
      exact ⟨_, t, ht, hrest'.trans hu, congrArg (k.name :: ·) hnames⟩

theorem map_changeLast {α β : Type} {f : α → α} {g : α → β} (h : ∀ a, g (f a) = g a) (as : List α) :
    (changeLast f as).map g = as.map g := by
  fun_induction changeLast f as <;> simp_all

theorem names_settlePath (keys : List Key) (before : List Char) :
    (settlePath keys before).map (·.name) = keys.map (·.name) := by
  unfold settlePath
  rw [map_changeLast (by simp)]
  cases keys <;> rfl

/-- Keys that are read again along a path, where `last` is asked of the space in front of the path. -/
def GoodKeys (last : List Char → Prop) : List Key → Prop
  | [] => True
  | [k] => k.Good ∧ last k.outer.before
  | k :: l :: ks => (k.Good ∧ Blank k.outer.before) ∧ GoodKeys last (l :: ks)

theorem GoodKeys.mono {p q : List Char → Prop} (himp : ∀ b, p b → q b) {ks : List Key}
    (h : GoodKeys p ks) : GoodKeys q ks := by
  fun_induction GoodKeys p ks with
  | case1 => trivial
  | case2 => exact ⟨h.1, himp _ h.2⟩
  | case3 k l ks ih => exact ⟨h.1, ih h.2⟩

theorem Key.Good.settle {k : Key} (hk : k.Good) (outer : List Char) :
    Key.Good { k with inner := { k.inner with after := [] }, outer := ⟨outer, k.inner.after⟩ } :=
  ⟨hk.starts, hk.reads, hk.innerBefore, blank_nil, hk.innerAfter⟩

theorem goodKeys_changeLast {last : List Char → Prop} {f : Key → Key} {ks : List Key}
    (hks : ∀ k ∈ ks, k.Good ∧ Blank k.outer.before)
    (hlast : ∀ k, k.Good → (f k).Good ∧ last (f k).outer.before) : GoodKeys last (changeLast f ks) := by
  fun_induction changeLast f ks with
  | case1 => trivial
  | case2 k => exact hlast k (hks k List.mem_cons_self).1
  | case3 k l ks ih =>
      obtain ⟨hk, hks⟩ := List.forall_mem_cons.mp hks
      have hrest := ih hks
      cases hnil : changeLast f (l :: ks) with
      | nil => cases ks <;> cases hnil
      | cons m ms =>
          rw [hnil] at hrest
          exact ⟨hk, hrest⟩

/-- A path as it is read behind a text that belongs to it. -/
structure GoodPath (before : List Char) (path : List Key) : Prop where
  ne_nil : path ≠ []
  length : path.length ≤ maxDepth
  keys : GoodKeys (fun b => ∃ blank, Blank blank ∧ b = before ++ blank) path

theorem goodPath_settlePath {keys : List Key} (hne : keys ≠ []) (hlength : keys.length ≤ maxDepth)
    (hgood : ∀ k ∈ keys, k.Good ∧ Blank k.outer.before) (before : List Char) :
    GoodPath before (settlePath keys before) := by
  have hnames := congrArg List.length (names_settlePath keys before)
  simp only [List.length_map] at hnames
  obtain ⟨k, ks, rfl⟩ := List.exists_cons_of_ne_nil hne
  obtain ⟨⟨hk, houter⟩, hks⟩ := List.forall_mem_cons.mp hgood
  have hfirst : Key.Good { k with inner := { k.inner with before := [] } } :=
    ⟨hk.starts, hk.reads, blank_nil, hk.innerAfter, hk.outerAfter⟩
  refine ⟨List.ne_nil_of_length_pos (hnames ▸ Nat.succ_pos ks.length), by omega,
    goodKeys_changeLast (List.forall_mem_cons.mpr ⟨⟨hfirst, houter⟩, hks⟩) fun l hl => ?_⟩
  exact ⟨hl.settle _, k.inner.before, hk.innerBefore, rfl⟩

theorem goodPath_of_readPath {before s : List Char} {path : List Key} {t : Shorter s}
    (h : readPath before s = some (path, t)) : GoodPath before path := by
  obtain ⟨⟨keys, u⟩, hkeys, h⟩ := Option.bind_eq_some_iff.mp h
  dsimp only at h
  split at h
  · cases h
  · rename_i hlength
    cases h
    obtain ⟨hne, hgood⟩ := readKeys_good hkeys
    exact goodPath_settlePath hne (Nat.le_of_not_lt hlength) hgood before

theorem readPath_writeKeys {ks : List Key} {k : Key} (hk : k.Good) (hks : ∀ l ∈ ks, l.Good)
    (hlength : (k :: ks).length ≤ maxDepth) (before : List Char) {space rest : List Char}
    (hspace : Blank space) (hrest : EndsPath rest) :
    ∃ path t, readPath before (space ++ (writeKeys k ks ++ rest)) = some (path, t) ∧ t.1 = rest ∧
      path.map (·.name) = (k :: ks).map (·.name) := by
  obtain ⟨keys, t, hkeys, ht, hnames⟩ := readKeys_writeKeys hk hks hspace hrest
  have hshort : ¬ maxDepth < keys.length := by
    have hsame := congrArg List.length hnames
    simp only [List.length_map] at hsame
    omega
  refine ⟨settlePath keys before, t, ?_, ht, (names_settlePath keys before).trans hnames⟩
  simp [readPath, hkeys, hshort]

end ServerLink.Toml
