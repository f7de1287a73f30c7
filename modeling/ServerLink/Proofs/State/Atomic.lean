import ServerLink.Proofs.State.Record

/-!
A use of the file of state that fails leaves the file as it was. A notice is given only once the version is
recorded, so one that was lost is due again in the next use that does not fail.
-/

namespace ServerLink.State

open ServerLink.Release ServerLink.Storage

/-- A use of the file, and what goes wrong in it apart from what is in the tree: reading for the first time,
reading again, and the steps of the write. -/
structure Use where
  version : String
  first : Option FileError := none
  again : Option FileError := none
  faults : Tree.Faults := Tree.noFaults

def Use.record (use : Use) (s : Store) (t : Tree) : Except Error Unit × Tree :=
  s.recordIn (s.read use.first t) use.faults use.version t

def Use.check (use : Use) (s : Store) (t : Tree) : Except Error (Option Notice) × Tree :=
  s.checkIn (s.read use.first t) (s.read use.again t) use.faults use.version t

theorem check_undisturbed (s : Store) (faults : Tree.Faults) (current : String) (t : Tree) :
    ({ version := current, faults } : Use).check s t = s.checkVersion faults current t := rfl

namespace Store

/-- What is in the file is what was there. So it is with every file in the tree, and whatever was in the tree
is still there. -/
structure Untouched (s : Store) (before after : Tree) : Prop where
  files (place : Place) (bytes : List UInt8) :
    after.node? place = some (.file bytes) ↔ before.node? place = some (.file bytes)
  kept (place : Place) (n : Node) : before.node? place = some n → after.node? place = some n
  read_kept (bytes : List UInt8) : before.read s.path = .ok bytes → after.read s.path = .ok bytes
  read_back (bytes : List UInt8) : before.Rooted → before.Steady s.path →
    after.read s.path = .ok bytes → before.read s.path = .ok bytes

/-- A tree that uses of the file leave behind which all fail. -/
inductive Fails (s : Store) (t : Tree) : Tree → Prop
  | refl : Fails s t t
  | check {u u' : Tree} (use : Use) (e : Error) (h : Fails s t u) (hfails : use.check s u = (.error e, u')) :
      Fails s t u'
  | record {u u' : Tree} (use : Use) (e : Error) (h : Fails s t u)
      (hfails : use.record s u = (.error e, u')) : Fails s t u'

/-- What the check of a use comes to. -/
inductive Checked (s : Store) (use : Use) (t : Tree) : Except Error (Option Notice) × Tree → Prop
  | unread {e : Error} (h : s.lastVersionOf (s.read use.first t) = .error e) : Checked s use t (.error e, t)
  | nothing {previous : Option String} (h : s.lastVersionOf (s.read use.first t) = .ok previous)
      (hdue : Notice.evaluate previous use.version = none) : Checked s use t (.ok none, t)
  | given {previous : Option String} {notice : Notice} {t' : Tree}
      (h : s.lastVersionOf (s.read use.first t) = .ok previous)
      (hdue : Notice.evaluate previous use.version = some notice)
      (hrecord : s.recordIn (s.read use.again t) use.faults use.version t = (.ok (), t')) :
      Checked s use t (.ok (some notice), t')
  | lost {previous : Option String} {notice : Notice} {e : Error} {t' : Tree}
      (h : s.lastVersionOf (s.read use.first t) = .ok previous)
      (hdue : Notice.evaluate previous use.version = some notice)
      (hrecord : s.recordIn (s.read use.again t) use.faults use.version t = (.error e, t')) :
      Checked s use t (.error e, t')

variable {s : Store} {use : Use} {t t' : Tree} {e : Error}

theorem checked_check (s : Store) (use : Use) (t : Tree) : s.Checked use t (use.check s t) := by
  unfold Use.check checkIn
  split
  · exact .unread (by assumption)
  · rename_i previous hprevious
    split
    · exact .nothing hprevious (by assumption)
    · rename_i notice hdue
      split
      · exact .given hprevious hdue (by assumption)
      · exact .lost hprevious hdue (by assumption)

theorem made_recordIn {content : Except FileError (List UInt8)} {faults : Tree.Faults} {version : String}
    (h : s.recordIn content faults version t = (.error e, t')) : Tree.Made t t' := by
  unfold recordIn at h
  split at h
  · cases h
    exact .refl
  · split at h
    · cases h
    · rename_i hreplace
      cases h
      exact Tree.made_replaceFile hreplace

theorem made_check (h : use.check s t = (.error e, t')) : Tree.Made t t' := by
  have hchecked := h ▸ checked_check s use t
  cases hchecked with
  | unread _ => exact .refl
  | lost _ _ hrecord => exact made_recordIn hrecord

theorem Fails.made {u : Tree} (h : s.Fails t u) : Tree.Made t u := by
  induction h with
  | refl => exact .refl
  | check use e _ hfails ih => exact ih.trans (made_check hfails)
  | record use e _ hfails ih => exact ih.trans (made_recordIn hfails)

theorem untouched_of_made (h : Tree.Made t t') : s.Untouched t t' where
  files _ _ := h.node?_file
  kept _ _ := h.node?_kept
  read_kept _ := h.read_kept
  read_back _ := h.read_back

theorem lastVersion_of_made (h : Tree.Made t t') (hrooted : t.Rooted) (hsteady : t.Steady s.path)
    {previous : Option String} (hprevious : s.lastVersion t' = .ok previous) :
    s.lastVersion t = .ok previous := by
  have hread : t.read s.path = t'.read s.path := by
    apply h.read_eq hrooted hsteady
    intro e herror
    by_contra hne
    have hunread : documentOf (t'.read s.path) = .error .unreadable := by
      rw [herror]
      unfold documentOf
      split
      · rename_i hmissing
        exact absurd (Except.error.inj hmissing) hne
      · rfl
      · rename_i hok
        cases hok
    rw [lastVersion, lastVersionOf, lastVersionIn, hunread] at hprevious
    cases hprevious
  rwa [lastVersion, hread]

/-- A use of the file that fails leaves what is in it as it was, and so does a check that gives no notice.
A notice is given only when the version that it is about is recorded, and however often uses fail, the next
check that does not gives the notice that was due before. -/
theorem uses_are_atomic (s : Store) :
    (∀ (use : Use) (t t' : Tree) (e : Error), use.record s t = (.error e, t') → s.Untouched t t') ∧
    (∀ (use : Use) (t t' : Tree) (e : Error), use.check s t = (.error e, t') → s.Untouched t t') ∧
    (∀ (use : Use) (t t' : Tree), use.check s t = (.ok none, t') → t' = t) ∧
    (∀ (use : Use) (t t' : Tree) (notice : Notice), use.check s t = (.ok (some notice), t') →
      s.lastVersion t' = .ok (some use.version)) ∧
    ∀ (t u u' : Tree) (faults : Tree.Faults) (current : String) (outcome : Option Notice),
      t.Rooted → t.Steady s.path → s.Fails t u →
      s.checkVersion faults current u = (.ok outcome, u') →
      ∃ previous, s.lastVersion t = .ok previous ∧ outcome = Notice.evaluate previous current := by
  refine ⟨?_, ?_, ?_, ?_, ?_⟩
  · intro use t t' e h
    exact untouched_of_made (made_recordIn h)
  · intro use t t' e h
    exact untouched_of_made (made_check h)
  · intro use t t' h
    have hchecked := h ▸ checked_check s use t
    cases hchecked with
    | nothing _ _ => rfl
  · intro use t t' notice h
    have hchecked := h ▸ checked_check s use t
    cases hchecked with
    | given _ _ hrecord => exact lastVersion_of_recordIn hrecord
  · intro t u u' faults current outcome hrooted hsteady hfails h
    have hchecked := checked_check s { version := current, faults } u
    rw [check_undisturbed, h] at hchecked
    cases hchecked with
    | nothing hprevious hdue =>
        exact ⟨_, lastVersion_of_made hfails.made hrooted hsteady hprevious, hdue.symm⟩
    | given hprevious hdue _ =>
        exact ⟨_, lastVersion_of_made hfails.made hrooted hsteady hprevious, hdue.symm⟩

def inDirectory : Store := ⟨Path.ofText "/state/state.toml"⟩

/-- A use in which the finished file cannot be put in its place. -/
def unrenamed (version : String) : Use :=
  { version, faults := fun step => if step = .rename then some .denied else none }

/-- What is left after a check and the record of another version have failed where there was nothing. -/
def afterFailures : Tree :=
  ((unrenamed "1.0").record inDirectory ((unrenamed "2.0").check inDirectory {}).2).2

/-- What is left after a check that succeeds at last. -/
def afterCheck : Tree :=
  (inDirectory.checkVersion Tree.noFaults "2.0" afterFailures).2

theorem uses_are_atomic_unrenamed :
    inDirectory.Untouched {} ((unrenamed "2.0").check inDirectory {}).2 ∧
    inDirectory.Untouched ((unrenamed "2.0").check inDirectory {}).2 afterFailures ∧
    afterFailures ≠ {} ∧
    inDirectory.checkVersion Tree.noFaults "2.0" afterFailures = (.ok (some .firstRun), afterCheck) ∧
    inDirectory.lastVersion afterCheck = .ok (some "2.0") ∧
    (∃ previous, inDirectory.lastVersion {} = .ok previous ∧
      some .firstRun = Notice.evaluate previous "2.0") ∧
    ((unrenamed "2.0").check inDirectory afterCheck).2 = afterCheck := by
  obtain ⟨hrecord, hcheck, hnothing, hgiven, hagain⟩ := uses_are_atomic inDirectory
  have hfirst : (unrenamed "2.0").check inDirectory {} =
      (.error ⟨.unwritable, inDirectory.path⟩, ((unrenamed "2.0").check inDirectory {}).2) :=
    Prod.ext (by decide +kernel) rfl
  have hsecond : (unrenamed "1.0").record inDirectory ((unrenamed "2.0").check inDirectory {}).2 =
      (.error ⟨.unwritable, inDirectory.path⟩, afterFailures) := Prod.ext (by decide +kernel) rfl
  have hthird : inDirectory.checkVersion Tree.noFaults "2.0" afterFailures =
      (.ok (some .firstRun), afterCheck) := Prod.ext (by decide +kernel) rfl
  have hlast : (unrenamed "2.0").check inDirectory afterCheck =
      (.ok none, ((unrenamed "2.0").check inDirectory afterCheck).2) := Prod.ext (by decide +kernel) rfl
  refine ⟨hcheck _ _ _ _ hfirst, hrecord _ _ _ _ hsecond, by decide +kernel, hthird, ?_, ?_,
    hnothing _ _ _ hlast⟩
  · exact hgiven { version := "2.0" } _ _ _ hthird
  · exact hagain _ _ _ _ _ _ Tree.rooted_empty (.inl (by decide)) (.record _ _ (.check _ _ .refl hfirst) hsecond)
      hthird

end Store

end ServerLink.State
