namespace ServerLink.Assoc

variable {κ α : Type}

def find? [DecidableEq κ] (k : κ) : List (κ × α) → Option α
  | [] => none
  | (l, a) :: m => if k = l then some a else find? k m

def insert [DecidableEq κ] [LT κ] [DecidableLT κ] (k : κ) (a : α) : List (κ × α) → List (κ × α)
  | [] => [(k, a)]
  | (l, b) :: m =>
      if k = l then (k, a) :: m
      else if k < l then (k, a) :: (l, b) :: m
      else (l, b) :: insert k a m

def erase [DecidableEq κ] (k : κ) : List (κ × α) → List (κ × α)
  | [] => []
  | (l, b) :: m => if k = l then m else (l, b) :: erase k m

def contains [DecidableEq κ] (k : κ) (m : List (κ × α)) : Bool :=
  (find? k m).isSome

/-- The map with the given entries; of several under one key the last stays. -/
def ofList [DecidableEq κ] [LT κ] [DecidableLT κ] (entries : List (κ × α)) : List (κ × α) :=
  entries.foldl (fun m e => insert e.1 e.2 m) []

section Lookup

variable [DecidableEq κ]

@[simp]
theorem find?_nil (k : κ) : find? k ([] : List (κ × α)) = none := rfl

theorem find?_insert [LT κ] [DecidableLT κ] (k l : κ) (a : α) (m : List (κ × α)) :
    find? l (insert k a m) = if l = k then some a else find? l m := by
  induction m with
  | nil => simp [insert, find?]
  | cons e m ih =>
      obtain ⟨j, b⟩ := e
      simp only [insert]
      by_cases hkj : k = j
      · subst hkj
        by_cases hl : l = k <;> simp [find?, hl]
      · by_cases hlt : k < j
        · by_cases hl : l = k <;> simp [find?, hkj, hlt, hl]
        · by_cases hl : l = j
          · have : ¬ l = k := fun h => hkj (h.symm.trans hl)
            simp [find?, hkj, hlt, hl, Ne.symm hkj]
          · simp [find?, hkj, hlt, hl, ih]

@[simp]
theorem find?_insert_self [LT κ] [DecidableLT κ] (k : κ) (a : α) (m : List (κ × α)) :
    find? k (insert k a m) = some a := by
  simp [find?_insert]

theorem find?_ofList [LT κ] [DecidableLT κ] (k : κ) (entries : List (κ × α)) :
    find? k (ofList entries) = find? k entries.reverse := by
  rw [ofList, ← List.foldr_reverse]
  induction entries.reverse with
  | nil => rfl
  | cons e m ih => rw [List.foldr_cons, find?_insert, ih, find?]

theorem find?_erase_of_ne {k l : κ} (h : l ≠ k) (m : List (κ × α)) :
    find? l (erase k m) = find? l m := by
  induction m with
  | nil => rfl
  | cons e m ih =>
      obtain ⟨j, b⟩ := e
      by_cases hkj : k = j
      · subst hkj
        simp [erase, find?, h]
      · simp [erase, find?, hkj, ih]

end Lookup

end ServerLink.Assoc
