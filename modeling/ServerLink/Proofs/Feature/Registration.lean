import Mathlib.Data.List.Forall2
import ServerLink.Feature.Basic

namespace ServerLink

/-- The values of the named members of a record: an object holds them by their names, an array in their order,
and what an array leaves out is missing at its end. -/
inductive Json.Record (names : List String) : Json → List (Option Json) → Prop where
  | object (fields : List (String × Json)) :
      Record names (.object fields) (names.map (Assoc.find? · fields))
  | array (items : List Json) (missing : Nat) (hall : items.length + missing = names.length) :
      Record names (.array items) (items.map some ++ List.replicate missing none)

theorem Json.record?_eq_some_iff {names : List String} {j : Json} {values : List (Option Json)} :
    record? false names j = some values ↔ Record names j values := by
  constructor
  · intro h
    cases j with
    | object fields =>
        cases h
        exact .object fields
    | array items =>
        rw [record?] at h
        split at h
        · rename_i hle
          have hle : items.length ≤ names.length := by simpa using hle
          cases h
          rw [List.take_of_length_le hle]
          exact .array items _ (by omega)
        · cases h
    | _ => cases h
  · intro h
    cases h with
    | object fields => rfl
    | array items missing hall =>
        have hle : items.length ≤ names.length := by omega
        have hmissing : names.length - items.length = missing := by omega
        simp [record?, hle, hmissing, List.take_of_length_le hle]

theorem Json.Record.length_eq {names : List String} {j : Json} {values : List (Option Json)}
    (h : Record names j values) : values.length = names.length :=
  Json.length_record? (Json.record?_eq_some_iff.mpr h)

namespace Feature

/-- A value is a registration: a record with two texts, and with options or without. -/
def Registration.Denotes (j : Json) (r : Registration) : Prop :=
  ∃ options, Json.Record ["id", "method", "registerOptions"] j
    [some (.string r.id), some (.string r.method), options] ∧ r.options = filled? options

/-- A value is an unregistration: a record with two texts. -/
def Unregistration.Denotes (j : Json) (r : Unregistration) : Prop :=
  Json.Record ["id", "method"] j [some (.string r.id), some (.string r.method)]

/-- A value is a record whose only member is a list of what denotes some values. Where the member is missing,
the list is empty. -/
inductive Lists {α : Type} (name : String) (Denotes : Json → α → Prop) (j : Json) : List α → Prop where
  | missing (hrecord : Json.Record [name] j [none]) : Lists name Denotes j []
  | filled {items : List Json} {as : List α} (hrecord : Json.Record [name] j [some (.array items)])
      (hitems : List.Forall₂ Denotes items as) : Lists name Denotes j as

theorem textMember?_eq_some_iff {j : Option Json} {s : String} :
    textMember? j = some s ↔ j = some (.string s) := by
  cases j with
  | none => simp [textMember?]
  | some j => cases j <;> simp [textMember?, Json.string?]

theorem Registration.ofJson?_eq_some_iff {j : Json} {r : Registration} :
    ofJson? j = some r ↔ Denotes j r := by
  constructor
  · intro h
    obtain ⟨values, hvalues, h⟩ := Option.bind_eq_some_iff.mp h
    have hrecord := Json.record?_eq_some_iff.mp hvalues
    match values, hrecord.length_eq with
    | [id, method, options], _ =>
        obtain ⟨i, hid, h⟩ := Option.bind_eq_some_iff.mp h
        obtain ⟨m, hmethod, h⟩ := Option.bind_eq_some_iff.mp h
        cases h
        cases textMember?_eq_some_iff.mp hid
        cases textMember?_eq_some_iff.mp hmethod
        exact ⟨options, hrecord, rfl⟩
  · rintro ⟨options, hrecord, hoptions⟩
    simp [ofJson?, Json.record?_eq_some_iff.mpr hrecord, textMember?, Json.string?, ← hoptions]

theorem Unregistration.ofJson?_eq_some_iff {j : Json} {r : Unregistration} :
    ofJson? j = some r ↔ Denotes j r := by
  constructor
  · intro h
    obtain ⟨values, hvalues, h⟩ := Option.bind_eq_some_iff.mp h
    have hrecord := Json.record?_eq_some_iff.mp hvalues
    match values, hrecord.length_eq with
    | [id, method], _ =>
        obtain ⟨i, hid, h⟩ := Option.bind_eq_some_iff.mp h
        obtain ⟨m, hmethod, h⟩ := Option.bind_eq_some_iff.mp h
        cases h
        cases textMember?_eq_some_iff.mp hid
        cases textMember?_eq_some_iff.mp hmethod
        exact hrecord
  · intro hrecord
    simp [ofJson?, Json.record?_eq_some_iff.mpr hrecord, textMember?, Json.string?]

section

variable {α : Type} {read : Json → Option α} {Denotes : Json → α → Prop}

theorem mapM_eq_some_iff (hread : ∀ j a, read j = some a ↔ Denotes j a) {items : List Json}
    {as : List α} : items.mapM read = some as ↔ List.Forall₂ Denotes items as := by
  induction items generalizing as with
  | nil => simp [eq_comm]
  | cons j items ih =>
      rw [List.mapM_cons, List.forall₂_cons_left_iff]
      simp only [Option.bind_eq_bind, Option.bind_eq_some_iff, Option.pure_def, Option.some.injEq,
        ih, hread]
      constructor
      · rintro ⟨a, ha, rest, hrest, rfl⟩
        exact ⟨a, rest, ha, hrest, rfl⟩
      · rintro ⟨a, rest, ha, hrest, rfl⟩
        exact ⟨a, ha, rest, hrest, rfl⟩

theorem listMember?_eq_some_iff (hread : ∀ j a, read j = some a ↔ Denotes j a) {j : Json}
    {as : List α} : listMember? read (some j) = some as ↔
      ∃ items, j = .array items ∧ List.Forall₂ Denotes items as := by
  rw [listMember?]
  cases j with
  | array items => simp [Json.items?, mapM_eq_some_iff hread]
  | _ => simp [Json.items?]

theorem only?_eq_some_iff (hread : ∀ j a, read j = some a ↔ Denotes j a) {name : String} {j : Json}
    {as : List α} : only? name read (some j) = some as ↔ Lists name Denotes j as := by
  constructor
  · intro h
    obtain ⟨values, hvalues, h⟩ := Option.bind_eq_some_iff.mp h
    have hrecord := Json.record?_eq_some_iff.mp hvalues
    match values, hrecord.length_eq with
    | [none], _ =>
        cases h
        exact .missing hrecord
    | [some member], _ =>
        obtain ⟨items, rfl, hitems⟩ := (listMember?_eq_some_iff hread).mp h
        exact .filled hrecord hitems
  · intro h
    cases h with
    | missing hrecord => simp [only?, Json.record?_eq_some_iff.mpr hrecord, listMember?]
    | filled hrecord hitems =>
        have hlist := (listMember?_eq_some_iff hread).mpr ⟨_, rfl, hitems⟩
        simpa [only?, Json.record?_eq_some_iff.mpr hrecord] using hlist

end

end Feature

end ServerLink
