import ServerLink.Proofs.Storage.Directories

namespace ServerLink.Storage.Tree

/-- A file that is put at the end of a path does not stand in the way of the path. -/
theorem follow_put {t : Tree} {place : Place} {n : Node} (hne : place ≠ [])
    (hfile : ∀ closed, t.node? place ≠ some (.directory closed)) {start : Place}
    {names : List (List UInt8)} (h : t.follow start names = .ok place) :
    (t.put place n).follow start names = .ok place := by
  induction names generalizing start with
  | nil => exact h
  | cons name names ih =>
      rw [follow] at h ⊢
      cases hstart : t.node? start with
      | none =>
          rw [hstart] at h
          cases h
      | some node =>
          cases node with
          | file bytes =>
              rw [hstart] at h
              cases h
          | directory closed =>
              have hother : start ≠ place := fun heq => hfile closed (heq ▸ hstart)
              rw [node?_put hne, if_neg hother, hstart]
              rw [hstart] at h
              dsimp only at h ⊢
              split
              · rename_i hlong
                rw [if_pos hlong] at h
                cases h
              · rename_i hshort
                rw [if_neg hshort] at h
                exact ih h

variable {t t' : Tree} {p : Path} {bytes : List UInt8}

theorem moveTo_eq_ok (h : t.moveTo p bytes = .ok t') :
    ∃ place, t.locate p = .ok place ∧ (∀ closed, t.node? place ≠ some (.directory closed)) ∧
      p.isOfDirectory = false ∧ t' = t.put place (.file bytes) := by
  obtain ⟨place, hplace, h⟩ := bind_eq_ok h
  split at h
  · cases h
  · rename_i hfile
    split at h
    · cases h
    · rename_i hdirectory
      exact ⟨place, hplace, hfile, by simpa using hdirectory, (Except.ok.inj h).symm⟩

theorem read_moveTo (h : t.moveTo p bytes = .ok t') : t'.read p = .ok bytes := by
  obtain ⟨place, hplace, hfile, hdirectory, rfl⟩ := moveTo_eq_ok h
  obtain ⟨hfollow, hlocate⟩ := locate_eq_follow hplace
  have hne := ne_nil_of_node? hfile
  refine read_eq_ok_iff.mpr ⟨place, ?_, ?_, hdirectory⟩
  · rw [hlocate]
    exact follow_put hne hfile hfollow
  · rw [node?_put hne, if_pos rfl]

/-- A file is replaced in one move, once the directories around it have been made. -/
theorem replaceFile_cases (faults : Faults) (t : Tree) (p : Path) (bytes : List UInt8) :
    ∃ made, Made t made ∧
      ((∃ e, t.replaceFile faults p bytes = (.error e, made)) ∨
        ∃ t', made.moveTo p bytes = .ok t' ∧ t.replaceFile faults p bytes = (.ok (), t')) := by
  unfold replaceFile
  dsimp only
  split
  · exact ⟨t, .refl, .inl ⟨_, rfl⟩⟩
  · have hmade := made_makeDirectories t p.directory
    refine ⟨_, hmade, ?_⟩
    rcases hdirectories : t.makeDirectories p.directory with ⟨e | _, made⟩
    · exact .inl ⟨e, rfl⟩
    · dsimp only
      split
      · exact .inl ⟨_, rfl⟩
      · rename_i hreplaced
        obtain ⟨_, -, hreplaced⟩ := bind_eq_ok hreplaced
        obtain ⟨_, -, hreplaced⟩ := bind_eq_ok hreplaced
        obtain ⟨_, -, hreplaced⟩ := bind_eq_ok hreplaced
        obtain ⟨_, -, hreplaced⟩ := bind_eq_ok hreplaced
        obtain ⟨_, -, hmove⟩ := bind_eq_ok hreplaced
        exact .inr ⟨_, hmove, rfl⟩

theorem read_replaceFile {faults : Faults} (h : t.replaceFile faults p bytes = (.ok (), t')) :
    t'.read p = .ok bytes := by
  obtain ⟨made, -, ⟨e, herror⟩ | ⟨u, hmove, hok⟩⟩ := replaceFile_cases faults t p bytes
  · rw [herror] at h
    cases h
  · rw [hok] at h
    cases h
    exact read_moveTo hmove

theorem made_replaceFile {faults : Faults} {e : FileError}
    (h : t.replaceFile faults p bytes = (.error e, t')) : Made t t' := by
  obtain ⟨made, hmade, ⟨e', herror⟩ | ⟨u, -, hok⟩⟩ := replaceFile_cases faults t p bytes
  · rw [herror] at h
    cases h
    exact hmade
  · rw [hok] at h
    cases h

end ServerLink.Storage.Tree
