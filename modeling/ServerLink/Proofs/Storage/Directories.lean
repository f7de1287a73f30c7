import ServerLink.Storage.Tree

/-!
Trees in which directories are made. All that was there stays, and what names led to they still lead to.
-/

namespace ServerLink.Storage.Tree

/-- Everything in a tree is in a directory. -/
def Rooted (t : Tree) : Prop :=
  ∀ place, t.node? place ≠ none → ∃ closed, t.node? place.dropLast = some (.directory closed)

/-- A tree in which directories have been made, each at an empty place in an open directory. -/
inductive Made (t : Tree) : Tree → Prop
  | refl : Made t t
  | push {u : Tree} {place : Place} (h : Made t u) (hempty : u.node? place = none)
      (hopen : u.node? place.dropLast = some (.directory false)) : Made t (u.put place (.directory false))

/-- The path has no upward step, or leads to a place. Where an upward step stands behind a directory that is
missing, making the directory can open the way to a file that was there all along. -/
def Steady (t : Tree) (p : Path) : Prop :=
  upward ∉ p.names ∨ ∃ place, t.locate p = .ok place

variable {t t' u : Tree} {place start : Place} {names : List (List UInt8)} {n : Node} {p : Path}
  {bytes : List UInt8}

theorem bind_eq_ok {α β : Type} {x : Except FileError α} {f : α → Except FileError β} {b : β}
    (h : (x >>= f) = .ok b) : ∃ a, x = .ok a ∧ f a = .ok b := by
  cases x with
  | error e => cases h
  | ok a => exact ⟨a, rfl, h⟩

theorem ne_nil_of_node? (h : ∀ closed, t.node? place ≠ some (.directory closed)) : place ≠ [] := by
  rintro rfl
  exact h false rfl

theorem ne_nil_of_empty (h : t.node? place = none) : place ≠ [] :=
  ne_nil_of_node? (t := t) fun _ hn => by simp [h] at hn

theorem rooted_empty : Rooted {} := by
  intro place h
  cases place with
  | nil => exact ⟨false, rfl⟩
  | cons name names => simp [node?] at h

theorem Rooted.nothing_below (hrooted : t.Rooted) (h : t.node? place = none) : t.node? (place ++ names) = none := by
  induction names generalizing place with
  | nil => rwa [List.append_nil]
  | cons name names ih =>
      rw [← List.singleton_append, ← List.append_assoc]
      apply ih
      cases hnode : t.node? (place ++ [name]) with
      | none => rfl
      | some node =>
          obtain ⟨closed, hdirectory⟩ := hrooted (place ++ [name]) (by rw [hnode]; exact nofun)
          rw [List.dropLast_concat, h] at hdirectory
          cases hdirectory

theorem follow_eq_append (hdown : upward ∉ names) (h : t.follow start names = .ok place) :
    place = start ++ names := by
  induction names generalizing start with
  | nil =>
      cases h
      rw [List.append_nil]
  | cons name names ih =>
      rw [List.mem_cons, not_or] at hdown
      rw [follow] at h
      split at h
      · split at h
        · cases h
        · rw [if_neg (Ne.symm hdown.1)] at h
          rw [ih hdown.2 h, List.append_assoc, List.singleton_append]
      · cases h
      · cases h

theorem locate_eq_follow {t : Tree} {p : Path} {place : Place} (h : t.locate p = .ok place) :
    t.follow [] p.names = .ok place ∧ ∀ u : Tree, u.locate p = u.follow [] p.names := by
  unfold locate at h
  split at h
  · cases h
  · rename_i hzero
    split at h
    · cases h
    · rename_i hlimit
      exact ⟨h, fun u => by rw [locate, if_neg hzero, if_neg hlimit]⟩

theorem read_eq_ok_iff :
    t.read p = .ok bytes ↔
      ∃ place, t.locate p = .ok place ∧ t.node? place = some (.file bytes) ∧ p.isOfDirectory = false := by
  constructor
  · intro h
    obtain ⟨node, hfind, hnode⟩ := bind_eq_ok h
    obtain ⟨place, hplace, hfound⟩ := bind_eq_ok hfind
    refine ⟨place, hplace, ?_⟩
    cases node with
    | directory closed => cases hnode
    | file content =>
        cases hnode
        split at hfound
        · cases hfound
        · rename_i hfile
          split at hfound
          · cases hfound
          · rename_i hdirectory
            cases hfound
            exact ⟨hfile, by simpa using hdirectory⟩
        · rename_i hother hfile
          cases hfound
          exact absurd rfl (hother bytes)
  · rintro ⟨place, hplace, hfile, hdirectory⟩
    rw [read, find, hplace]
    simp only [bind, Except.bind, hfile, hdirectory, Bool.false_eq_true, if_false]

namespace Made

theorem trans (h : Made t u) (h' : Made u t') : Made t t' := by
  induction h' with
  | refl => exact h
  | push _ hempty hopen ih => exact .push ih hempty hopen

theorem node?_kept (h : Made t t') (hn : t.node? place = some n) : t'.node? place = some n := by
  induction h with
  | refl => exact hn
  | push _ hempty _ ih =>
      rw [node?_put (ne_nil_of_empty hempty), if_neg, ih]
      rintro rfl
      rw [ih] at hempty
      cases hempty

theorem node?_made (h : Made t t') (hn : t'.node? place = some n) :
    t.node? place = some n ∨ t.node? place = none ∧ n = .directory false := by
  induction h with
  | refl => exact .inl hn
  | @push u made hmade hempty _ ih =>
      rw [node?_put (ne_nil_of_empty hempty)] at hn
      split at hn
      · rename_i heq
        refine .inr ⟨?_, (Option.some.inj hn).symm⟩
        rw [heq]
        refine Option.eq_none_iff_forall_ne_some.mpr fun m hm => ?_
        rw [hmade.node?_kept hm] at hempty
        cases hempty
      · exact ih hn

theorem node?_file (h : Made t t') :
    t'.node? place = some (.file bytes) ↔ t.node? place = some (.file bytes) := by
  constructor
  · intro hfile
    rcases h.node?_made hfile with hkept | ⟨-, hdirectory⟩
    · exact hkept
    · cases hdirectory
  · exact h.node?_kept

theorem follow_kept (h : Made t t') (hf : t.follow start names = .ok place) :
    t'.follow start names = .ok place := by
  induction names generalizing start with
  | nil => exact hf
  | cons name names ih =>
      rw [follow] at hf ⊢
      split at hf
      · rename_i closed hnode
        rw [h.node?_kept hnode]
        dsimp only
        split at hf
        · cases hf
        · rename_i hshort
          rw [if_neg hshort]
          exact ih hf
      · cases hf
      · cases hf

/-- Names without upward steps that lead to something which was there led to it before. -/
theorem follow_back (h : Made t t') (hrooted : t.Rooted) (hdown : upward ∉ names)
    (hf : t'.follow start names = .ok place) (hn : t.node? place ≠ none) :
    t.follow start names = .ok place := by
  induction names generalizing start with
  | nil => exact hf
  | cons name names ih =>
      have hspelt := follow_eq_append hdown hf
      rw [follow] at hf ⊢
      split at hf
      · rename_i closed hnode
        rcases h.node?_made hnode with hkept | ⟨hempty, -⟩
        · rw [hkept]
          dsimp only
          split at hf
          · cases hf
          · rename_i hshort
            rw [if_neg hshort]
            exact ih (fun hmem => hdown (List.mem_cons_of_mem _ hmem)) hf
        · exact absurd (hspelt ▸ hrooted.nothing_below hempty) hn
      · cases hf
      · cases hf

/-- Names that lead nowhere still lead nowhere, for the same reason unless something was missing. -/
theorem follow_error_kept (h : Made t t') {e : FileError} (hne : e ≠ .notFound)
    (hf : t.follow start names = .error e) : t'.follow start names = .error e := by
  induction names generalizing start with
  | nil => cases hf
  | cons name names ih =>
      rw [follow] at hf ⊢
      split at hf
      · rename_i closed hnode
        rw [h.node?_kept hnode]
        dsimp only
        split at hf
        · rename_i hlong
          rwa [if_pos hlong]
        · rename_i hshort
          rw [if_neg hshort]
          exact ih hf
      · rename_i hnode
        rw [h.node?_kept hnode]
        exact hf
      · cases hf
        exact absurd rfl hne

theorem locate_kept (h : Made t t') (hlocate : t.locate p = .ok place) : t'.locate p = .ok place := by
  obtain ⟨hf, heq⟩ := locate_eq_follow hlocate
  rw [heq]
  exact h.follow_kept hf

theorem read_kept (h : Made t t') (hread : t.read p = .ok bytes) : t'.read p = .ok bytes := by
  obtain ⟨place, hlocate, hfile, hdirectory⟩ := read_eq_ok_iff.mp hread
  exact read_eq_ok_iff.mpr ⟨place, h.locate_kept hlocate, h.node?_kept hfile, hdirectory⟩

theorem locate_error_kept (h : Made t t') {e : FileError} (hne : e ≠ .notFound)
    (hlocate : t.locate p = .error e) : t'.locate p = .error e := by
  unfold locate at hlocate ⊢
  split
  · rename_i hzero
    rwa [if_pos hzero] at hlocate
  · rename_i hzero
    rw [if_neg hzero] at hlocate
    split
    · rename_i hlimit
      rwa [if_pos hlimit] at hlocate
    · rename_i hlimit
      rw [if_neg hlimit] at hlocate
      exact h.follow_error_kept hne hlocate

theorem read_error_kept (h : Made t t') {e : FileError} (hne : e ≠ .notFound)
    (hread : t.read p = .error e) : t'.read p = .error e := by
  unfold read find at hread ⊢
  cases hlocate : t.locate p with
  | error e' =>
      rw [hlocate] at hread
      cases hread
      rw [h.locate_error_kept hne hlocate]
      rfl
  | ok place =>
      rw [hlocate] at hread
      rw [h.locate_kept hlocate]
      cases hnode : t.node? place with
      | none =>
          simp only [bind, Except.bind, hnode] at hread
          cases hread
          exact absurd rfl hne
      | some node =>
          simp only [bind, Except.bind, hnode] at hread
          simpa only [bind, Except.bind, h.node?_kept hnode] using hread

theorem read_back (h : Made t t') (hrooted : t.Rooted) (hsteady : t.Steady p)
    (hread : t'.read p = .ok bytes) : t.read p = .ok bytes := by
  obtain ⟨place, hlocate', hfile', hdirectory⟩ := read_eq_ok_iff.mp hread
  have hfile := h.node?_file.mp hfile'
  have hlocate : t.locate p = .ok place := by
    rcases hsteady with hdown | ⟨other, hlocate⟩
    · obtain ⟨hf, heq⟩ := locate_eq_follow hlocate'
      rw [heq]
      exact h.follow_back hrooted hdown hf (by rw [hfile]; exact nofun)
    · rw [hlocate, ← hlocate', h.locate_kept hlocate]
  exact read_eq_ok_iff.mpr ⟨place, hlocate, hfile, hdirectory⟩

theorem read_eq (h : Made t t') (hrooted : t.Rooted) (hsteady : t.Steady p)
    (hread : ∀ e, t'.read p = .error e → e = .notFound) : t.read p = t'.read p := by
  cases hbefore : t.read p with
  | ok bytes => rw [h.read_kept hbefore]
  | error e =>
      cases hafter : t'.read p with
      | ok bytes =>
          rw [h.read_back hrooted hsteady hafter] at hbefore
          cases hbefore
      | error e' =>
          by_cases hne : e = .notFound
          · rw [hne, hread e' hafter]
          · rw [← hafter, h.read_error_kept hne hbefore]

end Made

theorem checkParent_eq_ok (h : t.checkParent place = .ok ()) :
    t.node? place.dropLast = some (.directory false) := by
  unfold checkParent at h
  split at h
  · assumption
  all_goals cases h

theorem made_makeDirectory (h : t.makeDirectory start names = .ok (place, t')) : Made t t' := by
  obtain ⟨made, -, h⟩ := bind_eq_ok h
  split at h
  · cases h
  · rename_i hempty
    obtain ⟨_, hparent, h⟩ := bind_eq_ok h
    cases h
    exact .push .refl hempty (checkParent_eq_ok hparent)

theorem made_settle {made : Except FileError (Place × Tree)}
    (h : ∀ place u, made = .ok (place, u) → Made t u) : Made t (t.settle p made).2 := by
  cases made with
  | ok made => exact h made.1 made.2 rfl
  | error e =>
      rw [settle]
      split <;> exact .refl

theorem made_makeFirst (t : Tree) (around : List Path) : Made t (t.makeFirst around).2 := by
  induction around with
  | nil => exact .refl
  | cons p around ih =>
      rw [makeFirst]
      split
      · split
        · rename_i hfirst
          rw [hfirst] at ih
          exact ih
        · rename_i outer u hfirst
          rw [hfirst] at ih
          exact ih.trans (made_settle fun _ _ => made_makeDirectory)
      · refine made_settle fun place u hmade => ?_
        obtain ⟨_, -, hmade⟩ := bind_eq_ok hmade
        exact made_makeDirectory hmade

theorem made_makeDirectories (t : Tree) (p : Path) : Made t (t.makeDirectories p).2 :=
  made_makeFirst t p.ancestors

end ServerLink.Storage.Tree
