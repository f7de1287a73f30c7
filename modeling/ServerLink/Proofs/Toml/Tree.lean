import ServerLink.Toml.Document

namespace ServerLink.Toml.Entries

def names (es : Entries) : List String :=
  es.map (·.1.name)

@[simp] theorem names_cons (k : Key) (i : Item) (es : Entries) :
    names ((k, i) :: es) = k.name :: names es := rfl

@[simp] theorem names_append (es fs : Entries) : names (es ++ fs) = names es ++ names fs :=
  List.map_append

@[simp] theorem find?_nil (name : String) : find? name [] = none := rfl

theorem find?_cons (name : String) (k : Key) (i : Item) (es : Entries) :
    find? name ((k, i) :: es) = if k.name = name then some i else find? name es := rfl

theorem find?_append (name : String) (es fs : Entries) :
    find? name (es ++ fs) = (find? name es).or (find? name fs) := by
  induction es with
  | nil => rfl
  | cons e es ih =>
      obtain ⟨k, i⟩ := e
      rw [List.cons_append, find?_cons, find?_cons, ih]
      split <;> rfl

theorem mem_of_find? {name : String} {es : Entries} {i : Item} (h : find? name es = some i) :
    ∃ k, (k, i) ∈ es ∧ k.name = name := by
  induction es with
  | nil => cases h
  | cons e es ih =>
      obtain ⟨k, j⟩ := e
      rw [find?_cons] at h
      split at h
      · rename_i hk
        cases h
        exact ⟨k, List.mem_cons_self, hk⟩
      · obtain ⟨l, hl, hname⟩ := ih h
        exact ⟨l, List.mem_cons_of_mem _ hl, hname⟩

theorem find?_eq_none_iff {name : String} {es : Entries} : find? name es = none ↔ name ∉ names es := by
  induction es with
  | nil => simp [names]
  | cons e es ih =>
      obtain ⟨k, i⟩ := e
      rw [find?_cons, names_cons, List.mem_cons, not_or, ← ih]
      split
      · rename_i hk
        simp [hk]
      · rename_i hk
        simp [Ne.symm hk]

theorem find?_replace (name other : String) (i : Item) (es : Entries) :
    find? other (replace name i es) =
      if other = name then (find? name es).map fun _ => i else find? other es := by
  induction es with
  | nil => simp [replace]
  | cons e es ih =>
      obtain ⟨k, j⟩ := e
      rw [replace]
      split <;> grind [find?_cons]

theorem find?_remove_of_ne {name other : String} (hne : other ≠ name) (es : Entries) :
    find? other (remove name es) = find? other es := by
  induction es with
  | nil => rfl
  | cons e es ih =>
      obtain ⟨k, j⟩ := e
      rw [remove]
      split <;> grind [find?_cons]

@[simp] theorem names_replace (name : String) (i : Item) (es : Entries) :
    names (replace name i es) = names es := by
  induction es with
  | nil => rfl
  | cons e es ih =>
      obtain ⟨k, j⟩ := e
      rw [replace]
      split <;> simp [ih]

theorem names_remove_sublist (name : String) (es : Entries) :
    (names (remove name es)).Sublist (names es) := by
  induction es with
  | nil => exact .slnil
  | cons e es ih =>
      obtain ⟨k, j⟩ := e
      rw [remove]
      split
      · exact List.sublist_cons_self ..
      · exact ih.cons_cons _

theorem not_mem_names_remove {name : String} {es : Entries} (hnodup : (names es).Nodup) :
    name ∉ names (remove name es) := by
  induction es with
  | nil => nofun
  | cons e es ih =>
      obtain ⟨k, j⟩ := e
      obtain ⟨hk, hnodup⟩ := List.nodup_cons.mp hnodup
      rw [remove]
      split
      · rename_i hname
        exact hname ▸ hk
      · rename_i hname
        simpa [Ne.symm hname] using ih hnodup

theorem mem_replace {name : String} {new : Item} {es : Entries} {e : Key × Item}
    (h : e ∈ replace name new es) :
    e ∈ es ∨ ∃ old, (e.1, old) ∈ es ∧ find? name es = some old ∧ e.2 = new := by
  induction es with
  | nil => cases h
  | cons d es ih =>
      obtain ⟨k, j⟩ := d
      rw [replace] at h
      rw [find?_cons]
      split at h
      · rename_i hname
        rw [if_pos hname]
        rcases List.mem_cons.mp h with rfl | h
        · exact .inr ⟨j, List.mem_cons_self, rfl, rfl⟩
        · exact .inl (List.mem_cons_of_mem _ h)
      · rename_i hname
        rw [if_neg hname]
        rcases List.mem_cons.mp h with rfl | h
        · exact .inl List.mem_cons_self
        · rcases ih h with h | ⟨old, hold, hfind, hnew⟩
          · exact .inl (List.mem_cons_of_mem _ h)
          · exact .inr ⟨old, List.mem_cons_of_mem _ hold, hfind, hnew⟩

theorem mem_replace_self {name : String} {old : Item} {es : Entries}
    (hfind : find? name es = some old) (new : Item) : ∃ k, (k, new) ∈ replace name new es := by
  have hnew : find? name (replace name new es) = some new := by simp [find?_replace, hfind]
  obtain ⟨k, hmem, -⟩ := mem_of_find? hnew
  exact ⟨k, hmem⟩

theorem remove_subset (name : String) (es : Entries) : remove name es ⊆ es := by
  induction es with
  | nil => exact List.Subset.refl _
  | cons e es ih =>
      obtain ⟨k, j⟩ := e
      rw [remove]
      split
      · exact List.subset_cons_self ..
      · exact List.cons_subset_cons _ ih

/-- The place of a header of the table itself. -/
def kindPlaces : TableKind → List Nat
  | .headed place _ => [place]
  | _ => []

mutual

def itemPlaces : Item → List Nat
  | .value .. => []
  | .table kind entries => kindPlaces kind ++ places entries
  | .tables elements => elementPlaces elements

/-- The places of the headers in a table. -/
def places : List (Key × Item) → List Nat
  | [] => []
  | (_, i) :: es => itemPlaces i ++ places es

def elementPlaces : List (TableKind × List (Key × Item)) → List Nat
  | [] => []
  | (kind, es) :: elements => kindPlaces kind ++ places es ++ elementPlaces elements

end

@[simp] theorem places_append (es fs : Entries) : places (es ++ fs) = places es ++ places fs := by
  induction es with
  | nil => rfl
  | cons e es ih =>
      obtain ⟨k, i⟩ := e
      simp [places, ih]

@[simp] theorem elementPlaces_append (elements more : List (TableKind × Entries)) :
    elementPlaces (elements ++ more) = elementPlaces elements ++ elementPlaces more := by
  induction elements with
  | nil => rfl
  | cons e elements ih =>
      obtain ⟨kind, es⟩ := e
      simp [elementPlaces, ih]

theorem itemPlaces_subset {k : Key} {i : Item} {es : Entries} (h : (k, i) ∈ es) :
    itemPlaces i ⊆ places es := by
  induction es with
  | nil => cases h
  | cons e es ih =>
      rcases List.mem_cons.mp h with rfl | h
      · exact List.subset_append_left ..
      · exact List.subset_append_of_subset_right _ (ih h)

theorem places_ne_nil {k : Key} {i : Item} {es : Entries} (h : (k, i) ∈ es)
    (hplaces : itemPlaces i ≠ []) : places es ≠ [] := by
  obtain ⟨p, ps, hp⟩ := List.exists_cons_of_ne_nil hplaces
  exact List.ne_nil_of_mem (itemPlaces_subset h (hp ▸ List.mem_cons_self))

theorem places_replace {name : String} {old : Item} {es : Entries}
    (hfind : find? name es = some old) (new : Item) :
    ∃ before after, places es = before ++ itemPlaces old ++ after ∧
      places (replace name new es) = before ++ itemPlaces new ++ after := by
  induction es with
  | nil => cases hfind
  | cons e es ih =>
      obtain ⟨k, j⟩ := e
      rw [find?_cons] at hfind
      rw [replace]
      split at hfind
      · rename_i hk
        cases hfind
        exact ⟨[], places es, rfl, by simp [hk, places]⟩
      · rename_i hk
        obtain ⟨before, after, hplaces, hnew⟩ := ih hfind
        exact ⟨itemPlaces j ++ before, after, by simp [places, hplaces], by simp [hk, places, hnew]⟩

theorem places_remove {name : String} {old : Item} {es : Entries} (hfind : find? name es = some old) :
    ∃ before after, places es = before ++ itemPlaces old ++ after ∧
      places (remove name es) = before ++ after := by
  induction es with
  | nil => cases hfind
  | cons e es ih =>
      obtain ⟨k, j⟩ := e
      rw [find?_cons] at hfind
      rw [remove]
      split at hfind
      · rename_i hk
        cases hfind
        exact ⟨[], places es, rfl, by simp [hk]⟩
      · rename_i hk
        obtain ⟨before, after, hplaces, hrest⟩ := ih hfind
        exact ⟨itemPlaces j ++ before, after, by simp [places, hplaces], by simp [hk, places, hrest]⟩

/-- A line of a table, seen from an outer one. -/
def under (path : List Key) : Line → Line
  | .entry rest space v => .entry (path ++ rest) space v
  | .header isArray rest space => .header isArray (path ++ rest) space

mutual

theorem itemLines_under (path : List Key) : ∀ (i : Item) (rest : List Key),
    itemLines (path ++ rest) i = (itemLines rest i).map (under path)
  | .value .., _ => rfl
  | .table (.headed ..) _, _ => rfl
  | .table .implied _, _ => rfl
  | .table .dotted es, rest => ownLines_under path es rest
  | .tables _, _ => rfl

theorem ownLines_under (path : List Key) : ∀ (es : List (Key × Item)) (rest : List Key),
    ownLines (path ++ rest) es = (ownLines rest es).map (under path)
  | [], _ => rfl
  | (k, i) :: es, rest => by
      rw [ownLines, ownLines, List.map_append, ← itemLines_under path i, ← ownLines_under path es,
        List.append_assoc]

end

theorem ownLines_eq_map (path : List Key) (es : Entries) :
    ownLines path es = (ownLines [] es).map (under path) := by
  simpa using ownLines_under path es []

theorem ownLines_eq_nil_iff {path : List Key} {es : Entries} :
    ownLines path es = [] ↔ ownLines [] es = [] := by
  rw [ownLines_eq_map, List.map_eq_nil_iff]

theorem ownLines_append (path : List Key) (es fs : Entries) :
    ownLines path (es ++ fs) = ownLines path es ++ ownLines path fs := by
  induction es with
  | nil => rfl
  | cons e es ih =>
      obtain ⟨k, i⟩ := e
      simp [ownLines, ih]

theorem ownLines_ne_nil {path : List Key} {es : Entries} {k : Key} {i : Item} (h : (k, i) ∈ es)
    (hlines : itemLines (path ++ [k]) i ≠ []) : ownLines path es ≠ [] := by
  induction es with
  | nil => cases h
  | cons e es ih =>
      obtain ⟨l, j⟩ := e
      rcases List.mem_cons.mp h with heq | h
      · cases heq
        simp [ownLines, hlines]
      · simp [ownLines, ih h]

theorem ownLines_replace {name : String} {old new : Item} {es : Entries}
    (hfind : find? name es = some old) (hlines : ∀ path, itemLines path new = itemLines path old)
    (path : List Key) : ownLines path (replace name new es) = ownLines path es := by
  induction es with
  | nil => cases hfind
  | cons e es ih =>
      obtain ⟨k, j⟩ := e
      rw [find?_cons] at hfind
      rw [replace]
      split at hfind
      · rename_i hk
        cases hfind
        simp [hk, ownLines, hlines]
      · rename_i hk
        simp [hk, ownLines, ih hfind]

theorem ownLines_remove {name : String} {old : Item} {es : Entries}
    (hfind : find? name es = some old) (hlines : ∀ path, itemLines path old = [])
    (path : List Key) : ownLines path (remove name es) = ownLines path es := by
  induction es with
  | nil => cases hfind
  | cons e es ih =>
      obtain ⟨k, j⟩ := e
      rw [find?_cons] at hfind
      rw [remove]
      split at hfind
      · rename_i hk
        cases hfind
        simp [hk, ownLines, hlines]
      · rename_i hk
        simp [hk, ownLines, ih hfind]

end ServerLink.Toml.Entries
