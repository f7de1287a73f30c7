import ServerLink.Assoc

namespace ServerLink.Assoc

variable {κ α : Type} [DecidableEq κ]

theorem mem_of_mem_erase {k : κ} {m : List (κ × α)} {e : κ × α} (he : e ∈ erase k m) : e ∈ m := by
  induction m with
  | nil => exact he
  | cons f m ih =>
      obtain ⟨l, b⟩ := f
      simp only [erase] at he
      split at he
      · exact List.mem_cons_of_mem _ he
      · rcases List.mem_cons.mp he with rfl | he
        · exact List.mem_cons_self
        · exact List.mem_cons_of_mem _ (ih he)

theorem find?_eq_none {k : κ} {m : List (κ × α)} (h : ∀ e ∈ m, k ≠ e.1) : find? k m = none := by
  induction m with
  | nil => rfl
  | cons e m ih =>
      obtain ⟨l, b⟩ := e
      have hne : k ≠ l := h (l, b) List.mem_cons_self
      simp [find?, hne, ih fun e he => h e (List.mem_cons_of_mem _ he)]

theorem mem_insert [LT κ] [DecidableLT κ] {k : κ} {a : α} {m : List (κ × α)} {e : κ × α}
    (he : e ∈ insert k a m) : e = (k, a) ∨ e ∈ m := by
  induction m with
  | nil => exact .inl (List.mem_singleton.mp he)
  | cons f m ih =>
      obtain ⟨l, b⟩ := f
      simp only [insert] at he
      split at he
      · exact (List.mem_cons.mp he).imp id (List.mem_cons_of_mem _)
      · split at he
        · exact List.mem_cons.mp he
        · rcases List.mem_cons.mp he with rfl | he
          · exact .inr List.mem_cons_self
          · exact (ih he).imp id (List.mem_cons_of_mem _)

/-- The keys of a map ascend, so that no key is there twice. -/
def Ascending [LT κ] (m : List (κ × α)) : Prop :=
  m.Pairwise fun e f => e.1 < f.1

theorem Ascending.insert [LE κ] [LT κ] [DecidableLT κ] [Std.IsLinearOrder κ] [Std.LawfulOrderLT κ]
    {m : List (κ × α)} (hm : Ascending m) (k : κ) (a : α) : Ascending (insert k a m) := by
  induction m with
  | nil => exact List.pairwise_singleton _ _
  | cons e m ih =>
      obtain ⟨l, b⟩ := e
      obtain ⟨hl, htail⟩ := List.pairwise_cons.mp hm
      simp only [Assoc.insert]
      split
      · rename_i hkl
        subst hkl
        exact List.pairwise_cons.mpr ⟨hl, htail⟩
      · rename_i hkl
        split
        · rename_i hlt
          refine List.pairwise_cons.mpr ⟨?_, hm⟩
          intro f hf
          rcases List.mem_cons.mp hf with rfl | hf
          · exact hlt
          · exact Std.lt_trans hlt (hl f hf)
        · rename_i hlt
          refine List.pairwise_cons.mpr ⟨?_, ih htail⟩
          intro f hf
          rcases mem_insert hf with rfl | hf
          · exact Std.lt_of_le_of_ne (Std.not_lt.mp hlt) (Ne.symm hkl)
          · exact hl f hf

theorem insert_insert_self [LT κ] [DecidableLT κ] (k : κ) (a b : α) (m : List (κ × α)) :
    insert k a (insert k b m) = insert k a m := by
  induction m with
  | nil => simp [insert]
  | cons e m ih =>
      obtain ⟨l, c⟩ := e
      simp only [insert]
      split
      · simp [insert]
      · rename_i hne
        split
        · simp [insert]
        · rename_i hlt
          simp [insert, hne, hlt, ih]

theorem insert_comm_of_lt [LE κ] [LT κ] [DecidableLT κ] [Std.IsLinearOrder κ] [Std.LawfulOrderLT κ]
    {k l : κ} (hkl : k < l) (a b : α) (m : List (κ × α)) :
    insert k a (insert l b m) = insert l b (insert k a m) := by
  have hne : k ≠ l := Std.ne_of_lt hkl
  have hlk : ¬ l < k := fun hlk => Std.lt_irrefl (Std.lt_trans hkl hlk)
  induction m with
  | nil => simp [insert, hne, hne.symm, hkl, hlk]
  | cons e m ih =>
      obtain ⟨j, c⟩ := e
      by_cases hkj : k = j
      · subst hkj
        simp [insert, hne.symm, hlk]
      · by_cases hlt : k < j
        · by_cases hlj : l = j
          · subst hlj
            simp [insert, hkj, hlt, hlk, hne.symm]
          · by_cases hltj : l < j <;>
              simp [insert, hkj, hlt, hlj, hltj, hne, hne.symm, hkl, hlk]
        · have hjk : j < k := Std.lt_of_le_of_ne (Std.not_lt.mp hlt) (Ne.symm hkj)
          have hjl : j < l := Std.lt_trans hjk hkl
          have hlj : l ≠ j := Ne.symm (Std.ne_of_lt hjl)
          have hltj : ¬ l < j := fun hlj => Std.lt_irrefl (Std.lt_trans hjl hlj)
          simp [insert, hkj, hlt, hlj, hltj, ih]

theorem insert_comm [LE κ] [LT κ] [DecidableLT κ] [Std.IsLinearOrder κ] [Std.LawfulOrderLT κ]
    {k l : κ} (hne : k ≠ l) (a b : α) (m : List (κ × α)) :
    insert k a (insert l b m) = insert l b (insert k a m) := by
  by_cases hkl : k < l
  · exact insert_comm_of_lt hkl a b m
  · exact (insert_comm_of_lt (Std.lt_of_le_of_ne (Std.not_lt.mp hkl) (Ne.symm hne)) b a m).symm

theorem Ascending.erase [LT κ] {m : List (κ × α)} (hm : Ascending m) (k : κ) :
    Ascending (erase k m) := by
  induction m with
  | nil => exact hm
  | cons e m ih =>
      obtain ⟨l, b⟩ := e
      obtain ⟨hl, htail⟩ := List.pairwise_cons.mp hm
      simp only [Assoc.erase]
      split
      · exact htail
      · exact List.pairwise_cons.mpr ⟨fun f hf => hl f (mem_of_mem_erase hf), ih htail⟩

variable [LE κ] [LT κ] [Std.LawfulOrderLT κ]

theorem find?_erase_self {m : List (κ × α)} (hm : Ascending m) (k : κ) :
    find? k (erase k m) = none := by
  induction m with
  | nil => rfl
  | cons e m ih =>
      obtain ⟨l, b⟩ := e
      obtain ⟨hl, htail⟩ := List.pairwise_cons.mp hm
      by_cases hkl : k = l
      · subst hkl
        have hnone : find? k m = none := find?_eq_none fun f hf => Std.ne_of_lt (hl f hf)
        simp [erase, hnone]
      · simp [erase, find?, hkl, ih htail]

theorem find?_erase {m : List (κ × α)} (hm : Ascending m) (k l : κ) :
    find? l (erase k m) = if l = k then none else find? l m := by
  split
  · rename_i hlk
    subst hlk
    exact find?_erase_self hm l
  · rename_i hlk
    exact find?_erase_of_ne hlk m

end ServerLink.Assoc
