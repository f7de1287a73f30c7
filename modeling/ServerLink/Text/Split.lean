namespace ServerLink.Text

variable {α : Type} [DecidableEq α]

def splitOnce (sep : α) : List α → Option (List α × List α)
  | [] => none
  | c :: s => if c = sep then some ([], s) else (splitOnce sep s).map fun p => (c :: p.1, p.2)

/-- The parts between the separators: one more than there are separators. -/
def splitOn (sep : α) : List α → List (List α)
  | [] => [[]]
  | c :: s =>
      if c = sep then [] :: splitOn sep s
      else
        match splitOn sep s with
        | [] => [[c]]
        | p :: ps => (c :: p) :: ps

def joinWith (sep : α) : List (List α) → List α
  | [] => []
  | [p] => p
  | p :: q :: ps => p ++ sep :: joinWith sep (q :: ps)

theorem eq_append_of_splitOnce {sep : α} {s a b : List α} (h : splitOnce sep s = some (a, b)) :
    s = a ++ sep :: b ∧ sep ∉ a := by
  induction s generalizing a with
  | nil => simp [splitOnce] at h
  | cons c s ih =>
      by_cases hc : c = sep
      · simp only [splitOnce, hc, if_true, Option.some.injEq, Prod.mk.injEq] at h
        obtain ⟨rfl, rfl⟩ := h
        simp [hc]
      · simp only [splitOnce, hc, if_false, Option.map_eq_some_iff, Prod.mk.injEq] at h
        obtain ⟨⟨p, q⟩, hp, rfl, rfl⟩ := h
        obtain ⟨rfl, hn⟩ := ih hp
        exact ⟨by simp, by simpa [Ne.symm hc] using hn⟩

theorem splitOnce_append {sep : α} {a : List α} (h : sep ∉ a) (b : List α) :
    splitOnce sep (a ++ sep :: b) = some (a, b) := by
  induction a with
  | nil => simp [splitOnce]
  | cons c a ih =>
      have hc : c ≠ sep := fun e => h (by simp [e])
      have ha : sep ∉ a := fun e => h (by simp [e])
      simp [splitOnce, hc, ih ha]

theorem splitOnce_eq_none_iff {sep : α} {s : List α} : splitOnce sep s = none ↔ sep ∉ s := by
  induction s with
  | nil => simp [splitOnce]
  | cons c s ih =>
      by_cases hc : c = sep
      · simp [splitOnce, hc]
      · simp [splitOnce, hc, ih, Ne.symm hc]

theorem splitOn_ne_nil (sep : α) (s : List α) : splitOn sep s ≠ [] := by
  cases s with
  | nil => simp [splitOn]
  | cons c s =>
      simp only [splitOn]
      split
      · simp
      · split <;> simp

theorem joinWith_splitOn (sep : α) (s : List α) : joinWith sep (splitOn sep s) = s := by
  induction s with
  | nil => rfl
  | cons c s ih =>
      simp only [splitOn]
      split
      · next hc =>
        subst hc
        cases h : splitOn c s with
        | nil => exact absurd h (splitOn_ne_nil c s)
        | cons p ps => rw [h] at ih; simp [joinWith, ih]
      · next hc =>
        cases h : splitOn sep s with
        | nil => exact absurd h (splitOn_ne_nil sep s)
        | cons p ps =>
            rw [h] at ih
            cases ps with
            | nil => simpa [joinWith] using ih
            | cons q qs => simpa [joinWith] using ih

theorem splitOn_of_notMem {sep : α} {s : List α} (h : sep ∉ s) : splitOn sep s = [s] := by
  induction s with
  | nil => rfl
  | cons c s ih =>
      have hc : c ≠ sep := fun e => h (by simp [e])
      have hs : sep ∉ s := fun e => h (by simp [e])
      simp [splitOn, hc, ih hs]

theorem splitOn_append {sep : α} {a : List α} (h : sep ∉ a) (b : List α) :
    splitOn sep (a ++ sep :: b) = a :: splitOn sep b := by
  induction a with
  | nil => simp [splitOn]
  | cons c a ih =>
      have hc : c ≠ sep := fun e => h (by simp [e])
      have ha : sep ∉ a := fun e => h (by simp [e])
      simp [splitOn, hc, ih ha]

end ServerLink.Text
