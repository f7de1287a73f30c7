import ServerLink.Proofs.Text.Utf8
import ServerLink.Settings.Expansion

namespace ServerLink

open Text

namespace Environment

theorem text?_eq_some_iff {env : Environment} {name value : String} : env.text? name = some value ↔
    name ≠ "" ∧ env.find? (Utf8.bytes name) = some (Utf8.bytes value) := by
  have htext : ∀ b, Utf8.text? b = some value ↔ b = Utf8.bytes value := by
    intro b
    rw [Utf8.text?, Option.map_eq_some_iff]
    constructor
    · rintro ⟨t, ht, rfl⟩
      rw [Utf8.bytes, String.toList_ofList]
      exact Utf8.decode_eq_some_iff.mp ht
    · rintro rfl
      exact ⟨value.toList, Utf8.decode_encode _, String.ofList_toList⟩
  rw [text?, Option.bind_eq_some_iff]
  constructor
  · rintro ⟨b, hb, hvalue⟩
    refine ⟨?_, (htext b).mp hvalue ▸ hb⟩
    rintro rfl
    cases hb
  · rintro ⟨-, hfound⟩
    exact ⟨_, hfound, (htext _).mpr rfl⟩

/-- The bytes that stand for a name: its value, or nothing if it has none or one that is not UTF-8. -/
def valueBytes (env : Environment) (name : List UInt8) : List UInt8 :=
  ((env.find? name).filter fun b => (Utf8.decode b).isSome).getD []

theorem valueBytes_encode (env : Environment) (name : List Char) :
    env.valueBytes (Utf8.encode name) = Utf8.encode (Settings.referred env name) := by
  rw [valueBytes, Settings.referred, text?, Utf8.bytes, String.toList_ofList]
  cases env.find? (Utf8.encode name) with
  | none => rfl
  | some b =>
      cases hb : Utf8.decode b with
      | none => simp [Utf8.text?, hb, Option.filter]
      | some t => simp [Utf8.text?, hb, Option.filter, Utf8.encode_of_decode hb]

end Environment

namespace Settings

def opening : List Char := ['$', '\x7b']

def closing : List Char := ['\x7d']

theorem splitAtReference_eq_none_iff {s : List Char} :
    splitAtReference s = none ↔ ¬ opening <:+: s := by
  fun_induction splitAtReference s with
  | case1 s =>
      simp only [reduceCtorEq, false_iff, not_not]
      exact (List.prefix_append opening s).isInfix
  | case2 => simp [opening]
  | case3 c s hnot ih =>
      rw [Option.map_eq_none_iff, ih, List.infix_cons_iff, not_or]
      refine ⟨fun h => ⟨?_, h⟩, And.right⟩
      rintro ⟨t, ht⟩
      obtain ⟨rfl, rfl⟩ := List.cons.inj ht
      exact hnot t rfl rfl

theorem eq_append_of_splitAtReference {s a b : List Char} (h : splitAtReference s = some (a, b)) :
    s = a ++ (opening ++ b) ∧ ¬ opening <:+: a := by
  fun_induction splitAtReference s generalizing a with
  | case1 s =>
      cases h
      exact ⟨rfl, by simp [opening]⟩
  | case2 => cases h
  | case3 c s hnot ih =>
      obtain ⟨⟨a, b'⟩, hsplit, heq⟩ := Option.map_eq_some_iff.mp h
      cases heq
      obtain ⟨rfl, ha⟩ := ih hsplit
      refine ⟨rfl, fun hinfix => ?_⟩
      rcases List.infix_cons_iff.mp hinfix with ⟨t, ht⟩ | hrest
      · obtain ⟨rfl, rfl⟩ := List.cons.inj ht
        exact hnot _ rfl rfl
      · exact ha hrest

/-- Where a text opens its first reference is told by what stands before it. -/
theorem prefix_of_opening {a b a' b' : List Char} (ha : ¬ opening <:+: a)
    (h : a ++ (opening ++ b) = a' ++ (opening ++ b')) : a <+: a' := by
  rw [List.append_eq_append_iff] at h
  rcases h with ⟨m, rfl, -⟩ | ⟨m, rfl, hm⟩
  · exact List.prefix_append a m
  · match m, hm with
    | [], _ => simp
    | [c], hm => simp [opening] at hm
    | c :: d :: m, hm =>
        simp only [opening, List.cons_append, List.nil_append, List.cons.injEq] at hm
        obtain ⟨rfl, rfl, -⟩ := hm
        exact absurd ⟨a', m, by simp [opening]⟩ ha

theorem splitAtReference_append {a : List Char} (ha : ¬ opening <:+: a) (b : List Char) :
    splitAtReference (a ++ (opening ++ b)) = some (a, b) := by
  cases hsplit : splitAtReference (a ++ (opening ++ b)) with
  | none => exact absurd ⟨a, b, by simp⟩ (splitAtReference_eq_none_iff.mp hsplit)
  | some p =>
      obtain ⟨a', b'⟩ := p
      obtain ⟨heq, ha'⟩ := eq_append_of_splitAtReference hsplit
      obtain rfl : a = a' :=
        (prefix_of_opening ha heq).eq_of_length_le (prefix_of_opening ha' heq.symm).length_le
      rw [List.append_cancel_left (List.append_cancel_left heq)]

/-- The first reference of a text: what stands before it, its name, and what stands behind it. -/
structure FirstReference (s before name rest : List Char) : Prop where
  text : s = before ++ (opening ++ (name ++ (closing ++ rest)))
  unopened : ¬ opening <:+: before
  unclosed : '\x7d' ∉ name

/-- Whether a text opens a reference and closes one behind it. -/
def Refers (s : List Char) : Prop :=
  ∃ before name rest, s = before ++ (opening ++ (name ++ (closing ++ rest)))

theorem refers_iff {s : List Char} : Refers s ↔ ∃ before name rest, FirstReference s before name rest := by
  constructor
  · rintro ⟨before, name, rest, hs⟩
    cases hsplit : splitAtReference s with
    | none =>
        have hinfix : opening <:+: s := ⟨before, name ++ (closing ++ rest), by simp [hs]⟩
        exact absurd hinfix (splitAtReference_eq_none_iff.mp hsplit)
    | some p =>
        obtain ⟨a, b⟩ := p
        obtain ⟨rfl, ha⟩ := eq_append_of_splitAtReference hsplit
        obtain ⟨m, rfl⟩ := prefix_of_opening ha hs
        have hb : '\x7d' ∈ b := by
          have hmem : '\x7d' ∈ opening ++ b := by
            rw [List.append_assoc, List.append_cancel_left_eq] at hs
            rw [hs]
            simp [closing]
          simpa [opening] using hmem
        obtain ⟨⟨v, r⟩, hcut⟩ := Option.ne_none_iff_exists'.mp (mt splitOnce_eq_none_iff.mp (not_not.mpr hb))
        obtain ⟨rfl, hv⟩ := eq_append_of_splitOnce hcut
        exact ⟨a, v, r, rfl, ha, hv⟩
  · rintro ⟨before, name, rest, hfirst⟩
    exact ⟨before, name, rest, hfirst.text⟩

theorem expandWith_of_not_refers (value : List Char → List Char) {s : List Char} (h : ¬ Refers s) :
    expandWith value s = s := by
  rw [expandWith]
  split
  · rfl
  · rename_i before opened hsplit
    split
    · rfl
    · rename_i name rest hcut
      obtain ⟨rfl, -⟩ := eq_append_of_splitAtReference hsplit
      obtain ⟨rfl, -⟩ := eq_append_of_splitOnce hcut
      exact absurd ⟨before, name, rest, rfl⟩ h

theorem FirstReference.expandWith {s before name rest : List Char}
    (h : FirstReference s before name rest) (value : List Char → List Char) :
    expandWith value s = before ++ value name ++ Settings.expandWith value rest := by
  have hsplit := splitAtReference_append h.unopened (name ++ (closing ++ rest))
  have hcut := splitOnce_append h.unclosed rest
  rw [← h.text] at hsplit
  rw [Settings.expandWith]
  split
  · rename_i hnone
    cases hsplit.symm.trans hnone
  · rename_i hsome
    cases hsplit.symm.trans hsome
    split
    · rename_i hnone
      cases hcut.symm.trans hnone
    · rename_i hsome
      cases hcut.symm.trans hsome
      rfl

/-- Expands a text on its bytes, by offsets into what is left of it; nothing where a cut would fall outside of
it or inside a character. -/
def expandBytes? (value : List UInt8 → List UInt8) (s : List UInt8) : Option (List UInt8) :=
  match Utf8.offset? (Utf8.encode opening) s with
  | none => some s
  | some start =>
      match Utf8.slice? s (start + 2) s.length with
      | none => none
      | some opened =>
          match Utf8.offset? (Utf8.encode closing) opened with
          | none => some s
          | some length =>
              match Utf8.slice? s 0 start, Utf8.slice? s (start + 2) (start + 2 + length),
                h : Utf8.slice? s (start + 2 + length + 1) s.length with
              | some before, some name, some rest =>
                  have := Utf8.length_of_slice? h
                  (expandBytes? value rest).map (before ++ value name ++ ·)
              | _, _, _ => none
termination_by s.length
decreasing_by omega

theorem prefix_of_closing {a b a' b' : List Char} (ha : '\x7d' ∉ a)
    (h : a ++ (closing ++ b) = a' ++ (closing ++ b')) : a <+: a' := by
  rw [List.append_eq_append_iff] at h
  rcases h with ⟨m, rfl, -⟩ | ⟨m, rfl, hm⟩
  · exact List.prefix_append a m
  · cases m with
    | nil => simp
    | cons c m =>
        obtain ⟨rfl, -⟩ := List.cons.inj hm
        simp at ha

theorem offset?_opening {a : List Char} (ha : ¬ opening <:+: a) (b : List Char) :
    Utf8.offset? (Utf8.encode opening) (Utf8.encode (a ++ (opening ++ b))) =
      some (Utf8.encode a).length :=
  Utf8.offset?_encode (c := '$') (by decide) fun _ _ => prefix_of_opening ha

theorem offset?_closing {a : List Char} (ha : '\x7d' ∉ a) (b : List Char) :
    Utf8.offset? (Utf8.encode closing) (Utf8.encode (a ++ (closing ++ b))) =
      some (Utf8.encode a).length :=
  Utf8.offset?_encode (c := '\x7d') (by decide) fun _ _ => prefix_of_closing ha

theorem slice?_opened (a b : List Char) :
    Utf8.slice? (Utf8.encode (a ++ (opening ++ b))) ((Utf8.encode a).length + 2)
      (Utf8.encode (a ++ (opening ++ b))).length = some (Utf8.encode b) := by
  have hslice := Utf8.slice?_encode_end (a ++ opening) b
  rwa [List.append_assoc, Utf8.encode_append a opening, List.length_append] at hslice

theorem expandBytes?_of_not_refers (value : List UInt8 → List UInt8) {s : List Char}
    (h : ¬ Refers s) : expandBytes? value (Utf8.encode s) = some (Utf8.encode s) := by
  cases hsplit : splitAtReference s with
  | none =>
      have hoffset : Utf8.offset? (Utf8.encode opening) (Utf8.encode s) = none :=
        Utf8.offset?_encode_eq_none (c := '$') (by decide) (splitAtReference_eq_none_iff.mp hsplit)
      rw [expandBytes?]
      simp only [hoffset]
  | some p =>
      obtain ⟨a, b⟩ := p
      obtain ⟨rfl, ha⟩ := eq_append_of_splitAtReference hsplit
      have hoffset : Utf8.offset? (Utf8.encode closing) (Utf8.encode b) = none := by
        refine Utf8.offset?_encode_eq_none (c := '\x7d') (by decide) ?_
        rintro ⟨v, r, rfl⟩
        exact h ⟨a, v, r, by simp [closing]⟩
      rw [expandBytes?]
      simp only [offset?_opening ha, slice?_opened, hoffset]

theorem FirstReference.slices {s before name rest : List Char}
    (h : FirstReference s before name rest) :
    let start := (Utf8.encode before).length
    let length := (Utf8.encode name).length
    Utf8.slice? (Utf8.encode s) 0 start = some (Utf8.encode before) ∧
      Utf8.slice? (Utf8.encode s) (start + 2) (start + 2 + length) = some (Utf8.encode name) ∧
      Utf8.slice? (Utf8.encode s) (start + 2 + length + 1) (Utf8.encode s).length =
        some (Utf8.encode rest) := by
  have hbefore := Utf8.slice?_encode [] before (opening ++ (name ++ (closing ++ rest)))
  have hname := Utf8.slice?_encode (before ++ opening) name (closing ++ rest)
  have hrest := Utf8.slice?_encode_end (before ++ (opening ++ (name ++ closing))) rest
  have htext : before ++ (opening ++ (name ++ closing)) ++ rest = s := by simp [h.text]
  have hlength : (Utf8.encode (before ++ (opening ++ (name ++ closing)))).length =
      (Utf8.encode before).length + 2 + (Utf8.encode name).length + 1 := by
    have htwo : (Utf8.encode opening).length = 2 := rfl
    have hone : (Utf8.encode closing).length = 1 := rfl
    simp only [Utf8.encode_append, List.length_append, htwo, hone]
    omega
  rw [List.nil_append, ← h.text, Utf8.encode_nil, List.length_nil, Nat.zero_add] at hbefore
  rw [List.append_assoc, ← h.text, Utf8.encode_append before, List.length_append] at hname
  rw [htext, hlength] at hrest
  exact ⟨hbefore, hname, hrest⟩

theorem FirstReference.expandBytes? {s before name rest : List Char}
    (h : FirstReference s before name rest) (value : List UInt8 → List UInt8) :
    expandBytes? value (Utf8.encode s) = (Settings.expandBytes? value (Utf8.encode rest)).map
      (Utf8.encode before ++ value (Utf8.encode name) ++ ·) := by
  have hopening := offset?_opening h.unopened (name ++ (closing ++ rest))
  have hopened := slice?_opened before (name ++ (closing ++ rest))
  obtain ⟨hbefore, hname, hrest⟩ := h.slices
  rw [← h.text] at hopening hopened
  rw [Settings.expandBytes?]
  simp only [hopening, hopened, offset?_closing h.unclosed]
  split
  · rename_i hb hn hr
    cases hbefore.symm.trans hb
    cases hname.symm.trans hn
    cases hrest.symm.trans hr
    rfl
  · rename_i hnone
    exact absurd hrest (hnone _ _ _ hbefore hname)

/-- Every cut falls between characters, and the bytes are those of the expanded text. -/
theorem expandBytes?_encode {valueBytes : List UInt8 → List UInt8} {value : List Char → List Char}
    (hvalue : ∀ name, valueBytes (Utf8.encode name) = Utf8.encode (value name)) (s : List Char) :
    expandBytes? valueBytes (Utf8.encode s) = some (Utf8.encode (expandWith value s)) := by
  by_cases hrefers : Refers s
  · obtain ⟨before, name, rest, hfirst⟩ := refers_iff.mp hrefers
    have hshorter : rest.length < s.length := by
      rw [hfirst.text]
      simp only [List.length_append, opening, closing, List.length_cons]
      omega
    rw [hfirst.expandBytes?, hfirst.expandWith, expandBytes?_encode hvalue rest, hvalue]
    simp
  · rw [expandBytes?_of_not_refers valueBytes hrefers, expandWith_of_not_refers value hrefers]
termination_by s.length

/-- A text without a reference stays as it is. In any other text what stands before the first reference is kept,
the value stands for the name, and the expansion goes on with what stands behind the reference alone. The value
of a name is a text where the name is not empty and its bytes are UTF-8, and empty otherwise. On bytes, the
same expansion cuts the text nowhere but between characters. -/
theorem expands_reference_by_reference (env : Environment) :
    (∀ s : String, ¬ Refers s.toList → expandText env s = s) ∧
    (∀ s : String, Refers s.toList → ∃ before name rest : String,
      FirstReference s.toList before.toList name.toList rest.toList) ∧
    (∀ s before name rest : String,
      FirstReference s.toList before.toList name.toList rest.toList →
        expandText env s = before ++ (env.text? name).getD "" ++ expandText env rest) ∧
    (∀ name value : String, env.text? name = some value ↔
      name ≠ "" ∧ env.find? (Utf8.bytes name) = some (Utf8.bytes value)) ∧
    ∀ s : String, expandBytes? env.valueBytes (Utf8.bytes s) =
      some (Utf8.bytes (expandText env s)) := by
  refine ⟨fun s hs => ?_, fun s hs => ?_, fun s before name rest hfirst => ?_,
    fun _ _ => Environment.text?_eq_some_iff, fun s => ?_⟩
  · rw [expandText, expandWith_of_not_refers _ hs, String.ofList_toList]
  · obtain ⟨before, name, rest, hfirst⟩ := refers_iff.mp hs
    refine ⟨String.ofList before, String.ofList name, String.ofList rest, ?_⟩
    simpa only [String.toList_ofList] using hfirst
  · rw [expandText, hfirst.expandWith, String.ofList_append, String.ofList_append, referred]
    simp only [String.ofList_toList]
    rfl
  · rw [expandText, Utf8.bytes, Utf8.bytes, String.toList_ofList]
    exact expandBytes?_encode env.valueBytes_encode s.toList

/-- An environment in which a value is a reference to its own name. -/
def selfReferring : Environment :=
  ⟨[(Utf8.bytes "X", Utf8.bytes "$\x7bX\x7d")]⟩

theorem expands_reference_by_reference_once :
    FirstReference "é$$\x7bX\x7d$\x7b".toList "é$".toList "X".toList "$\x7b".toList ∧
      expandText selfReferring "é$$\x7bX\x7d$\x7b" = "é$$\x7bX\x7d$\x7b" := by
  obtain ⟨hplain, -, hreference, hvalue, -⟩ := expands_reference_by_reference selfReferring
  have hfirst : FirstReference "é$$\x7bX\x7d$\x7b".toList "é$".toList "X".toList "$\x7b".toList :=
    ⟨by decide, by decide, by decide⟩
  have hrest : ¬ Refers "$\x7b".toList := by
    rintro ⟨before, name, rest, h⟩
    have hclosed : '\x7d' ∈ "$\x7b".toList := by
      rw [h]
      simp [closing]
    exact absurd hclosed (by decide)
  have hself : selfReferring.text? "X" = some "$\x7bX\x7d" := (hvalue _ _).mpr ⟨by decide, rfl⟩
  refine ⟨hfirst, ?_⟩
  rw [hreference _ _ _ _ hfirst, hself, hplain _ hrest]
  rfl

end Settings

end ServerLink
