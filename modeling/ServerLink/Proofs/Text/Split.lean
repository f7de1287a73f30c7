import ServerLink.Text.Split

namespace ServerLink.Text

variable {α : Type} [DecidableEq α] {sep : α}

omit [DecidableEq α] in
theorem joinWith_eq_intercalate (sep : α) (parts : List (List α)) :
    joinWith sep parts = [sep].intercalate parts := by
  induction parts with
  | nil => rfl
  | cons p parts ih =>
      cases parts with
      | nil => simp [joinWith]
      | cons q parts => simp [joinWith, ih, List.intercalate_cons_cons]

theorem splitOn_joinWith {parts : List (List α)} (hne : parts ≠ []) (hparts : ∀ p ∈ parts, sep ∉ p) :
    splitOn sep (joinWith sep parts) = parts := by
  induction parts with
  | nil => exact absurd rfl hne
  | cons p parts ih =>
      obtain ⟨hp, hrest⟩ := List.forall_mem_cons.mp hparts
      cases parts with
      | nil => exact splitOn_of_notMem hp
      | cons q parts =>
          rw [joinWith, splitOn_append hp, ih (List.cons_ne_nil q parts) hrest]

theorem notMem_of_mem_splitOn {s : List α} : ∀ p ∈ splitOn sep s, sep ∉ p := by
  induction s with
  | nil => simp [splitOn]
  | cons c s ih =>
      simp only [splitOn]
      split
      · exact List.forall_mem_cons.mpr ⟨List.not_mem_nil, ih⟩
      · rename_i hc
        cases hsplit : splitOn sep s with
        | nil => exact absurd hsplit (splitOn_ne_nil sep s)
        | cons p parts =>
            rw [hsplit] at ih
            obtain ⟨hp, hrest⟩ := List.forall_mem_cons.mp ih
            refine List.forall_mem_cons.mpr ⟨?_, hrest⟩
            rw [List.mem_cons, not_or]
            exact ⟨Ne.symm hc, hp⟩

theorem splitOn_append_cons (s t : List α) :
    splitOn sep (s ++ sep :: t) = splitOn sep s ++ splitOn sep t := by
  induction s with
  | nil => simp [splitOn]
  | cons c s ih =>
      by_cases hc : c = sep
      · simp [splitOn, hc, ih]
      · cases hsplit : splitOn sep s with
        | nil => exact absurd hsplit (splitOn_ne_nil sep s)
        | cons p parts => simp [splitOn, hc, ih, hsplit]

end ServerLink.Text
