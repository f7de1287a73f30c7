import ServerLink.Proofs.Toml.Tree

namespace ServerLink.Toml

/-- What a value means: of a table, what stands under each name. -/
inductive Sense where
  | plain (c : Content)
  | array (items : List Sense)
  | table (entryOf : String → Option Sense)

mutual

def Content.sense : Content → Sense
  | .array items => .array (itemSenses items)
  | .table entries => .table (senses entries)
  | c => .plain c

def itemSenses : List Content → List Sense
  | [] => []
  | c :: cs => c.sense :: itemSenses cs

/-- The sense of what stands under a name. -/
def senses : List (String × Content) → String → Option Sense
  | [], _ => none
  | (n, c) :: es, name => if n = name then some c.sense else senses es name

end

mutual

/-- No name stands twice in a table. -/
def Content.Distinct : Content → Prop
  | .array items => ItemsDistinct items
  | .table entries => (entries.map (·.1)).Nodup ∧ EntriesDistinct entries
  | _ => True

def ItemsDistinct : List Content → Prop
  | [] => True
  | c :: cs => c.Distinct ∧ ItemsDistinct cs

def EntriesDistinct : List (String × Content) → Prop
  | [] => True
  | (_, c) :: es => c.Distinct ∧ EntriesDistinct es

end

theorem senses_of_mem {es : List (String × Content)} (hnodup : (es.map (·.1)).Nodup)
    {e : String × Content} (h : e ∈ es) : senses es e.1 = some e.2.sense := by
  induction es with
  | nil => cases h
  | cons d es ih =>
      obtain ⟨n, c⟩ := d
      obtain ⟨hn, hnodup⟩ := List.nodup_cons.mp hnodup
      rw [senses]
      rcases List.mem_cons.mp h with rfl | h
      · exact if_pos rfl
      · have hne : n ≠ e.1 := fun heq => hn (List.mem_map.mpr ⟨e, h, heq.symm⟩)
        rw [if_neg hne, ih hnodup h]

theorem mem_of_senses {es : List (String × Content)} {name : String} {s : Sense}
    (h : senses es name = some s) : ∃ c, (name, c) ∈ es ∧ c.sense = s := by
  induction es with
  | nil => cases h
  | cons d es ih =>
      obtain ⟨n, c⟩ := d
      rw [senses] at h
      split at h
      · rename_i hn
        cases h
        exact ⟨c, hn ▸ List.mem_cons_self, rfl⟩
      · obtain ⟨c, hc, hs⟩ := ih h
        exact ⟨c, List.mem_cons_of_mem _ hc, hs⟩

theorem allIntegers_of_mem {p : Int → Bool} {es : List (String × Content)}
    (h : entriesAllIntegers p es = true) {e : String × Content} (he : e ∈ es) :
    e.2.allIntegers p = true := by
  induction es with
  | nil => cases he
  | cons d es ih =>
      obtain ⟨n, c⟩ := d
      rw [entriesAllIntegers, Bool.and_eq_true] at h
      rcases List.mem_cons.mp he with rfl | he
      · exact h.1
      · exact ih h.2 he

mutual

/-- The integers in a value are those of any other value of the same sense. -/
theorem Content.allIntegers_of_sense {p : Int → Bool} : ∀ {d c : Content}, c.sense = d.sense →
    d.Distinct → c.allIntegers p = true → d.allIntegers p = true
  | .array ds, c, h, hd, hc => by
      cases c with
      | array cs =>
          rw [Content.sense, Content.sense, Sense.array.injEq] at h
          exact itemsAllIntegers_of_sense h hd hc
      | _ => cases h
  | .table ds, c, h, hd, hc => by
      cases c with
      | table cs =>
          rw [Content.sense, Content.sense, Sense.table.injEq] at h
          exact entriesAllIntegers_of_sense (fun e he => h ▸ senses_of_mem hd.1 he) hd.2 hc
      | _ => cases h
  | .integer n, c, h, _, hc => by
      cases c <;> cases h
      exact hc
  | .string _, _, _, _, _ | .float _, _, _, _, _ | .boolean _, _, _, _, _ | .time _, _, _, _, _ => rfl

theorem itemsAllIntegers_of_sense {p : Int → Bool} : ∀ {ds cs : List Content},
    itemSenses cs = itemSenses ds → ItemsDistinct ds → itemsAllIntegers p cs = true →
    itemsAllIntegers p ds = true
  | [], _, _, _, _ => rfl
  | d :: ds, c :: cs, h, hd, hc => by
      rw [itemSenses, itemSenses, List.cons.injEq] at h
      rw [itemsAllIntegers, Bool.and_eq_true] at hc ⊢
      exact ⟨d.allIntegers_of_sense h.1 hd.1 hc.1, itemsAllIntegers_of_sense h.2 hd.2 hc.2⟩

theorem entriesAllIntegers_of_sense {p : Int → Bool} {cs : List (String × Content)} :
    ∀ {ds : List (String × Content)}, (∀ e ∈ ds, senses cs e.1 = some e.2.sense) →
    EntriesDistinct ds → entriesAllIntegers p cs = true → entriesAllIntegers p ds = true
  | [], _, _, _ => rfl
  | (n, d) :: ds, h, hd, hc => by
      obtain ⟨hhead, h⟩ := List.forall_mem_cons.mp h
      obtain ⟨c, hmem, hsense⟩ := mem_of_senses hhead
      rw [entriesAllIntegers, Bool.and_eq_true]
      exact ⟨d.allIntegers_of_sense hsense hd.1 (allIntegers_of_mem hc hmem),
        entriesAllIntegers_of_sense h hd.2 hc⟩

end

end ServerLink.Toml
