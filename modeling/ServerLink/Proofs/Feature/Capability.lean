import Mathlib.Data.List.Nodup
import ServerLink.Feature.Basic
import ServerLink.Proofs.Assoc

namespace ServerLink.Feature

def Contribution.name (c : Contribution) : String × String :=
  (c.area, c.key)

/-- The value of the last contribution under a name. -/
def latest? (cs : List Contribution) (area key : String) : Option Json :=
  (cs.reverse.find? fun c => c.name = (area, key)).map (·.value)

/-- What contributions make of capabilities. A section to which nothing is contributed stays as it is, with or
without entries; any other is an object, with the last contribution under each name and, where there is none,
what was there before. -/
structure Merges (capabilities : Json) (cs : List Contribution) (merged : Json) : Prop where
  untouched : ∀ area, (∀ c ∈ cs, c.area ≠ area) → merged.get? area = capabilities.get? area
  touched : ∀ area, (∃ c ∈ cs, c.area = area) → ∃ entries, merged.get? area = some (.object entries) ∧
    ∀ key, Assoc.find? key entries = (latest? cs area key).or (capability? capabilities area key)
  object : cs ≠ [] → ∃ sections, merged = .object sections

/-- The members of a value and of its sections ascend by their keys, so that none is there twice. -/
structure Orderly (capabilities : Json) : Prop where
  sections : Assoc.Ascending (membersOf capabilities)
  entries : ∀ area inner, capabilities.get? area = some inner → Assoc.Ascending (membersOf inner)

/-- Puts a new value in the place of a member, with `null` as an empty object. Nothing can be put into any
other value that is no object. -/
def assign? (key : String) (f : Json → Option Json) : Json → Option Json
  | .object fields => do
      return .object (Assoc.insert key (← f (.ofOption (Assoc.find? key fields))) fields)
  | .null => do return .object [(key, ← f .null)]
  | _ => none

/-- A value that is an object, and an empty one in the place of any other. -/
def objectOf (j : Json) : Json :=
  match j with
  | .object fields => .object fields
  | _ => .object []

/-- Adds an entry by assignments, first into the capabilities and then into the section. -/
def assignInto? (capabilities : Json) (c : Contribution) : Option Json :=
  assign? c.area (fun inner => assign? c.key (fun _ => some c.value) (objectOf inner))
    (objectOf capabilities)

theorem objectOf_eq (j : Json) : objectOf j = .object (membersOf j) := by
  cases j <;> rfl

theorem assignInto?_eq (capabilities : Json) (c : Contribution) :
    assignInto? capabilities c = some (c.add capabilities) := by
  rw [assignInto?, objectOf_eq]
  simp only [assign?, objectOf_eq]
  rfl

theorem foldlM_assignInto? (capabilities : Json) (cs : List Contribution) :
    cs.foldlM assignInto? capabilities = some (cs.foldl Contribution.add capabilities) := by
  induction cs generalizing capabilities with
  | nil => rfl
  | cons c cs ih => simp [List.foldlM_cons, assignInto?_eq, ih]

theorem get?_eq_find? (j : Json) (key : String) : j.get? key = Assoc.find? key (membersOf j) := by
  cases j <;> rfl

theorem get?_add (capabilities : Json) (c : Contribution) (area : String) :
    (c.add capabilities).get? area =
      if area = c.area then
        some (.object (Assoc.insert c.key c.value
          (membersOf (.ofOption (capabilities.get? c.area)))))
      else capabilities.get? area := by
  rw [get?_eq_find? capabilities, get?_eq_find? capabilities]
  exact Assoc.find?_insert c.area area _ _

theorem capability?_eq_find? (capabilities : Json) (area key : String) :
    capability? capabilities area key =
      Assoc.find? key (membersOf (.ofOption (capabilities.get? area))) := by
  rw [capability?]
  cases capabilities.get? area with
  | none => rfl
  | some inner => exact get?_eq_find? inner key

theorem capability?_add (capabilities : Json) (c : Contribution) (area key : String) :
    capability? (c.add capabilities) area key =
      if c.name = (area, key) then some c.value else capability? capabilities area key := by
  rw [capability?, get?_add]
  by_cases harea : area = c.area
  · subst harea
    rw [if_pos rfl, capability?_eq_find?]
    simp only [Option.bind_some, Json.get?, Assoc.find?_insert, Contribution.name, Prod.mk.injEq, true_and,
      eq_comm]
  · rw [if_neg harea, if_neg fun hname => harea (congrArg Prod.fst hname).symm]
    rfl

theorem membersOf_add (capabilities : Json) (c : Contribution) :
    membersOf (c.add capabilities) = Assoc.insert c.area (.object (Assoc.insert c.key c.value
      (membersOf (.ofOption (capabilities.get? c.area))))) (membersOf capabilities) := by
  rw [get?_eq_find?]
  rfl

theorem add_eq (capabilities : Json) (c : Contribution) :
    c.add capabilities = .object (membersOf (c.add capabilities)) := rfl

theorem add_comm {c d : Contribution} (hname : c.name ≠ d.name) (capabilities : Json) :
    d.add (c.add capabilities) = c.add (d.add capabilities) := by
  have hmembers : membersOf (d.add (c.add capabilities)) = membersOf (c.add (d.add capabilities)) := by
    by_cases harea : c.area = d.area
    · have hkey : c.key ≠ d.key := fun hkey => hname (Prod.ext harea hkey)
      rw [membersOf_add _ d, membersOf_add _ c, membersOf_add _ c, membersOf_add _ d, get?_add, get?_add,
        if_pos harea.symm, if_pos harea, harea, Assoc.insert_insert_self, Assoc.insert_insert_self]
      exact congrArg (Assoc.insert d.area · (membersOf capabilities))
        (congrArg Json.object (Assoc.insert_comm hkey.symm _ _ _))
    · rw [membersOf_add _ d, membersOf_add _ c, membersOf_add _ c, membersOf_add _ d, get?_add, get?_add,
        if_neg (Ne.symm harea), if_neg harea, Assoc.insert_comm (Ne.symm harea)]
  rw [add_eq, hmembers, ← add_eq]

theorem foldl_add_perm {cs ds : List Contribution} (hperm : cs.Perm ds)
    (hdistinct : (cs.map (·.name)).Nodup) (capabilities : Json) :
    cs.foldl Contribution.add capabilities = ds.foldl Contribution.add capabilities := by
  refine hperm.foldl_eq' (fun c hc d hd merged => ?_) capabilities
  by_cases hcd : c = d
  · rw [hcd]
  · exact add_comm (fun hname => hcd (List.inj_on_of_nodup_map hdistinct hc hd hname)) merged

theorem latest?_cons (c : Contribution) (cs : List Contribution) (area key : String) :
    latest? (c :: cs) area key =
      (latest? cs area key).or (if c.name = (area, key) then some c.value else none) := by
  simp only [latest?, List.reverse_cons, List.find?_append, List.find?_singleton, Option.map_or]
  by_cases hname : c.name = (area, key) <;> simp [hname]

theorem latest?_eq_none_of_name {cs : List Contribution} {area key : String}
    (hname : ∀ c ∈ cs, c.name ≠ (area, key)) : latest? cs area key = none := by
  rw [latest?, Option.map_eq_none_iff, List.find?_eq_none]
  intro c hc heq
  exact hname c (List.mem_reverse.mp hc) (of_decide_eq_true heq)

theorem latest?_eq_none {cs : List Contribution} {area : String} (harea : ∀ c ∈ cs, c.area ≠ area)
    (key : String) : latest? cs area key = none :=
  latest?_eq_none_of_name fun c hc hname => harea c hc (congrArg Prod.fst hname)

theorem latest?_of_mem {cs : List Contribution} (hdistinct : (cs.map (·.name)).Nodup)
    {c : Contribution} (hc : c ∈ cs) : latest? cs c.area c.key = some c.value := by
  induction cs with
  | nil => cases hc
  | cons d cs ih =>
      rw [List.map_cons, List.nodup_cons] at hdistinct
      rw [latest?_cons]
      rcases List.mem_cons.mp hc with rfl | hc
      · have hnone : latest? cs c.area c.key = none := by
          rw [latest?, Option.map_eq_none_iff, List.find?_eq_none]
          intro d hd hname
          exact hdistinct.1 (List.mem_map.mpr ⟨d, List.mem_reverse.mp hd, of_decide_eq_true hname⟩)
        have hname : c.name = (c.area, c.key) := rfl
        rw [hnone, if_pos hname, Option.none_or]
      · rw [ih hdistinct.2 hc]
        rfl

theorem merges_foldl_add (capabilities : Json) (cs : List Contribution) :
    Merges capabilities cs (cs.foldl Contribution.add capabilities) := by
  induction cs generalizing capabilities with
  | nil => exact ⟨fun _ _ => rfl, nofun, fun h => absurd rfl h⟩
  | cons c cs ih =>
      have hrest := ih (c.add capabilities)
      refine ⟨fun area harea => ?_, fun area harea => ?_, fun _ => ?_⟩
      · obtain ⟨hc, hcs⟩ := List.forall_mem_cons.mp harea
        rw [List.foldl_cons, hrest.untouched area hcs, get?_add, if_neg (Ne.symm hc)]
      · by_cases hlater : ∃ d ∈ cs, d.area = area
        · obtain ⟨entries, hentries, hkeys⟩ := hrest.touched area hlater
          refine ⟨entries, hentries, fun key => ?_⟩
          rw [hkeys, latest?_cons, capability?_add, Option.or_assoc]
          by_cases hname : c.name = (area, key) <;> simp [hname]
        · have hcs : ∀ d ∈ cs, d.area ≠ area := fun d hd hda => hlater ⟨d, hd, hda⟩
          obtain rfl : c.area = area := by
            obtain ⟨d, hd, hda⟩ := harea
            rcases List.mem_cons.mp hd with rfl | hd
            · exact hda
            · exact absurd hda (hcs d hd)
          refine ⟨_, (hrest.untouched c.area hcs).trans ((get?_add _ _ _).trans (if_pos rfl)), fun key => ?_⟩
          rw [latest?_cons, latest?_eq_none hcs, Option.none_or, Assoc.find?_insert,
            ← capability?_eq_find?]
          by_cases hkey : key = c.key
          · simp [hkey, Contribution.name]
          · simp [hkey, Ne.symm hkey, Contribution.name]
      · cases cs with
        | nil => exact ⟨_, rfl⟩
        | cons d cs => exact hrest.object (List.cons_ne_nil d cs)

theorem Merges.capability? {capabilities merged : Json} {cs : List Contribution}
    (h : Merges capabilities cs merged) (area key : String) :
    capability? merged area key = (latest? cs area key).or (capability? capabilities area key) := by
  by_cases harea : ∃ c ∈ cs, c.area = area
  · obtain ⟨entries, hentries, hkeys⟩ := h.touched area harea
    rw [Feature.capability?, hentries]
    exact hkeys key
  · have hcs : ∀ c ∈ cs, c.area ≠ area := fun c hc hca => harea ⟨c, hc, hca⟩
    rw [Feature.capability?, h.untouched area hcs, latest?_eq_none hcs, Option.none_or,
      Feature.capability?]

theorem Orderly.add {capabilities : Json} (h : Orderly capabilities) (c : Contribution) :
    Orderly (c.add capabilities) := by
  refine ⟨h.sections.insert _ _, fun area inner hinner => ?_⟩
  rw [get?_add] at hinner
  split at hinner
  · cases hinner
    refine Assoc.Ascending.insert ?_ _ _
    cases hsection : capabilities.get? c.area with
    | none => exact List.Pairwise.nil
    | some old => exact h.entries _ _ hsection
  · exact h.entries area inner hinner

theorem Orderly.foldl_add {capabilities : Json} (h : Orderly capabilities) (cs : List Contribution) :
    Orderly (cs.foldl Contribution.add capabilities) := by
  induction cs generalizing capabilities with
  | nil => exact h
  | cons c cs ih => exact ih (h.add c)

end ServerLink.Feature
