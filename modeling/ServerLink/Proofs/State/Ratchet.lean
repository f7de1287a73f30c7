import ServerLink.Proofs.Release.Notice
import ServerLink.Proofs.State.Record

namespace ServerLink.State

open ServerLink.Release ServerLink.Storage

/-- A check of a version that can be read, and the faults that its write would meet. -/
structure Check where
  faults : Tree.Faults
  current : String
  version : Version
  read?_current : Version.read? current.toList = some version

namespace Check

def due (c : Check) (earlier : List Check) : Option Notice :=
  if earlier = [] then some .firstRun
  else if ∀ e ∈ earlier, e.version.rank < c.version.rank then some (.updated c.current)
  else none

/-- The check is the first of those in a history whose version is the greatest. -/
def IsFirstGreatest (r : Check) (history : List Check) : Prop :=
  ∃ before after, history = before ++ r :: after ∧
    (∀ e ∈ before, e.version.rank < r.version.rank) ∧ ∀ e ∈ after, e.version.rank ≤ r.version.rank

namespace IsFirstGreatest

theorem single (c : Check) : c.IsFirstGreatest [c] :=
  ⟨[], [], rfl, by simp, by simp⟩

variable {r c : Check} {history : List Check}

theorem mem (h : r.IsFirstGreatest history) : r ∈ history := by
  obtain ⟨before, after, rfl, -⟩ := h
  simp

theorem le (h : r.IsFirstGreatest history) {e : Check} (he : e ∈ history) :
    e.version.rank ≤ r.version.rank := by
  obtain ⟨before, after, rfl, hbefore, hafter⟩ := h
  rcases List.mem_append.mp he with he | he
  · exact (hbefore e he).le
  · rcases List.mem_cons.mp he with rfl | he
    · exact le_rfl
    · exact hafter e he

theorem lt_iff (h : r.IsFirstGreatest history) :
    (∀ e ∈ history, e.version.rank < c.version.rank) ↔ r.version.rank < c.version.rank :=
  ⟨fun hall => hall r h.mem, fun hr _ he => (h.le he).trans_lt hr⟩

theorem push_of_lt (h : r.IsFirstGreatest history) (hlt : r.version.rank < c.version.rank) :
    c.IsFirstGreatest (history ++ [c]) :=
  ⟨history, [], rfl, h.lt_iff.mpr hlt, by simp⟩

theorem push_of_le (h : r.IsFirstGreatest history) (hle : c.version.rank ≤ r.version.rank) :
    r.IsFirstGreatest (history ++ [c]) := by
  obtain ⟨before, after, rfl, hbefore, hafter⟩ := h
  refine ⟨before, after ++ [c], by simp, hbefore, fun e he => ?_⟩
  rcases List.mem_append.mp he with he | he
  · exact hafter e he
  · obtain rfl := List.mem_singleton.mp he
    exact hle

/-- What is due after a history depends on the greatest version in it alone. -/
theorem due_eq (h : r.IsFirstGreatest history) :
    c.due history = if r.version.rank < c.version.rank then some (.updated c.current) else none := by
  rw [due, if_neg (List.ne_nil_of_mem h.mem)]
  simp only [h.lt_iff]

end IsFirstGreatest

end Check

namespace Store

variable {s : Store} {t t' : Tree} {faults : Tree.Faults} {current : String} {previous : Option String}

/-- A version can fail to be recorded in a file that can be read only where the file cannot be written. -/
theorem failure_of_recordVersion {e : Error} (h : s.lastVersion t = .ok previous)
    (herror : s.recordVersion faults current t = (.error e, t')) : e = ⟨.unwritable, s.path⟩ := by
  unfold recordVersion recordIn withVersion read at herror
  cases hd : documentOf (t.read s.path) with
  | error f =>
      rw [lastVersion, lastVersionOf, lastVersionIn, hd] at h
      cases h
  | ok d =>
      rw [hd] at herror
      dsimp only [bind, Except.bind, pure, Except.pure] at herror
      split at herror
      · cases herror
      · cases herror
        rfl

theorem checkVersion_eq (s : Store) (faults : Tree.Faults) (current : String) (t : Tree) :
    s.checkVersion faults current t =
      match s.lastVersion t with
      | .error e => (.error e, t)
      | .ok previous =>
          match Notice.evaluate previous current with
          | none => (.ok none, t)
          | some notice =>
              match s.recordVersion faults current t with
              | (.ok (), t) => (.ok (some notice), t)
              | (.error e, t) => (.error e, t) := rfl

/-- A check that does not fail to write gives the notice that is due for the recorded version. The running
version is then recorded when there is a notice, and all is as before when there is none. -/
theorem checkVersion_spec (h : s.lastVersion t = .ok previous)
    (hwritten : (s.checkVersion faults current t).1 ≠ .error ⟨.unwritable, s.path⟩) :
    ∃ t', s.checkVersion faults current t = (.ok (Notice.evaluate previous current), t') ∧
      (Notice.evaluate previous current = none → t' = t) ∧
      (Notice.evaluate previous current ≠ none → s.lastVersion t' = .ok (some current)) := by
  rw [checkVersion_eq, h] at hwritten ⊢
  dsimp only at hwritten ⊢
  cases hnotice : Notice.evaluate previous current with
  | none => exact ⟨t, rfl, fun _ => rfl, nofun⟩
  | some notice =>
      rw [hnotice] at hwritten
      rcases hrecord : s.recordVersion faults current t with ⟨e | _, t'⟩
      · rw [hrecord, failure_of_recordVersion h hrecord] at hwritten
        exact absurd rfl hwritten
      · exact ⟨t', rfl, nofun, fun _ => lastVersion_of_recordIn hrecord⟩

theorem checkVersion_again (faults' : Tree.Faults) (hne : current ≠ "")
    (hwritten : (s.checkVersion faults current t).1 ≠ .error ⟨.unwritable, s.path⟩) :
    (s.checkVersion faults' current (s.checkVersion faults current t).2).1 =
      (s.lastVersion t).map fun _ => none := by
  cases hprevious : s.lastVersion t with
  | error e => simp [checkVersion_eq, hprevious, Except.map]
  | ok previous =>
      obtain ⟨t', heq, hnone, hsome⟩ := checkVersion_spec hprevious hwritten
      rw [heq]
      by_cases hdue : Notice.evaluate previous current = none
      · rw [hnone hdue]
        simp [checkVersion_eq, hprevious, hdue, Except.map]
      · simp [checkVersion_eq, hsome hdue, Notice.evaluate_self hne, Except.map]

/-- What is recorded after a history of checks: nothing before the first one, and then the first of the
greatest versions. -/
inductive Recorded (s : Store) : List Check → Tree → Prop
  | nothing {t : Tree} (h : s.lastVersion t = .ok none) : s.Recorded [] t
  | greatest {history : List Check} {t : Tree} (r : Check) (hr : r.IsFirstGreatest history)
      (h : s.lastVersion t = .ok (some r.current)) : s.Recorded history t

theorem recorded_of_notFound (h : t.read s.path = .error .notFound) : s.Recorded [] t :=
  .nothing (lastVersion_of_documentOf (by rw [h]; rfl))

theorem Recorded.greatest_of_ne_nil {history : List Check} (h : s.Recorded history t) (hne : history ≠ []) :
    ∃ r : Check, r.IsFirstGreatest history ∧ s.lastVersion t = .ok (some r.current) := by
  cases h with
  | nothing => exact absurd rfl hne
  | greatest r hr h => exact ⟨r, hr, h⟩

theorem Recorded.mem_of_lastVersion {history : List Check} (h : s.Recorded history t) {version : String}
    (hversion : s.lastVersion t = .ok (some version)) : ∃ e ∈ history, e.current = version := by
  cases h with
  | nothing h => simp [h] at hversion
  | greatest r hr h => exact ⟨r, hr.mem, by simpa [h] using hversion⟩

/-- One check gives the notice that is due after the history and keeps the record of it. -/
theorem Recorded.checkVersion {earlier : List Check} {c : Check} (h : s.Recorded earlier t)
    (hwritten : (s.checkVersion c.faults c.current t).1 ≠ .error ⟨.unwritable, s.path⟩) :
    ∃ t', s.checkVersion c.faults c.current t = (.ok (c.due earlier), t') ∧
      (c.due earlier = none → t' = t) ∧ s.Recorded (earlier ++ [c]) t' := by
  cases h with
  | nothing h =>
      obtain ⟨t', heq, -, hrecorded⟩ := checkVersion_spec h hwritten
      exact ⟨t', heq, nofun, .greatest c (.single c) (hrecorded nofun)⟩
  | greatest r hr h =>
      obtain ⟨t', heq, hkept, hrecorded⟩ := checkVersion_spec h hwritten
      have hdue : Notice.evaluate (some r.current) c.current = c.due earlier := by
        rw [Notice.evaluate_of_read? r.read?_current c.read?_current, hr.due_eq]
      rw [hdue] at heq hkept hrecorded
      refine ⟨t', heq, hkept, ?_⟩
      rw [hr.due_eq] at hkept hrecorded
      by_cases hlt : r.version.rank < c.version.rank
      · exact .greatest c (hr.push_of_lt hlt) (hrecorded (by simp [hlt]))
      · rw [hkept (if_neg hlt)]
        exact .greatest r (hr.push_of_le (not_lt.mp hlt)) h

/-- What checks one after the other come to, and the tree that they leave. -/
def checkAll (s : Store) : List Check → Tree → List (Except Error (Option Notice)) × Tree
  | [], t => ([], t)
  | c :: history, t =>
      let (outcome, t) := s.checkVersion c.faults c.current t
      let (outcomes, t) := s.checkAll history t
      (outcome :: outcomes, t)

theorem checkAll_cons (s : Store) (c : Check) (history : List Check) (t : Tree) :
    s.checkAll (c :: history) t =
      ((s.checkVersion c.faults c.current t).1 ::
        (s.checkAll history (s.checkVersion c.faults c.current t).2).1,
       (s.checkAll history (s.checkVersion c.faults c.current t).2).2) := rfl

theorem checkAll_append (s : Store) (earlier later : List Check) (t : Tree) :
    s.checkAll (earlier ++ later) t =
      ((s.checkAll earlier t).1 ++ (s.checkAll later (s.checkAll earlier t).2).1,
       (s.checkAll later (s.checkAll earlier t).2).2) := by
  induction earlier generalizing t with
  | nil => rfl
  | cons c earlier ih => simp [checkAll_cons, ih]

theorem length_checkAll (s : Store) (history : List Check) (t : Tree) :
    (s.checkAll history t).1.length = history.length := by
  induction history generalizing t with
  | nil => rfl
  | cons c history ih => simp [checkAll_cons, ih]

theorem Recorded.checkAll {earlier history : List Check} (h : s.Recorded earlier t)
    (hwritten : ∀ outcome ∈ (s.checkAll history t).1, outcome ≠ .error ⟨.unwritable, s.path⟩) :
    s.Recorded (earlier ++ history) (s.checkAll history t).2 := by
  induction history generalizing earlier t with
  | nil => simpa [Store.checkAll] using h
  | cons c history ih =>
      rw [checkAll_cons] at hwritten ⊢
      obtain ⟨t', heq, -, hrecorded⟩ := h.checkVersion (hwritten _ List.mem_cons_self)
      rw [heq] at hwritten ⊢
      simpa using ih hrecorded fun outcome ho => hwritten outcome (List.mem_cons_of_mem _ ho)

/-- Checks of versions that can be read, where there was no file and all is written: the first is a first
run, and after that a notice is due exactly for a version above all those before. The first of the greatest
versions so far is recorded, at least the one that was, and a version that is not above the earlier ones
leaves the tree as it is. Whatever is recorded, the same check made again gives no notice. -/
theorem checkVersion_ratchet (s : Store) :
    (∀ (t : Tree) (earlier : List Check) (c : Check) (later : List Check),
      t.read s.path = .error .notFound →
      (∀ outcome ∈ (s.checkAll (earlier ++ c :: later) t).1,
        outcome ≠ .error ⟨.unwritable, s.path⟩) →
      (s.checkAll (earlier ++ c :: later) t).1[earlier.length]? = some (.ok (c.due earlier)) ∧
      (∃ r : Check, r.IsFirstGreatest (earlier ++ [c]) ∧
        s.lastVersion (s.checkAll (earlier ++ [c]) t).2 = .ok (some r.current) ∧
        ∀ old, s.lastVersion (s.checkAll earlier t).2 = .ok (some old) →
          ∃ v, Version.read? old.toList = some v ∧ v.rank ≤ r.version.rank) ∧
      ((∃ e ∈ earlier, c.version.rank ≤ e.version.rank) →
        (s.checkAll (earlier ++ [c]) t).2 = (s.checkAll earlier t).2)) ∧
    ∀ (t : Tree) (faults faults' : Tree.Faults) (current : String), current ≠ "" →
      (s.checkVersion faults current t).1 ≠ .error ⟨.unwritable, s.path⟩ →
      (s.checkVersion faults' current (s.checkVersion faults current t).2).1 =
        (s.lastVersion t).map fun _ => none := by
  refine ⟨fun t earlier c later hmissing hwritten => ?_,
    fun t faults faults' current hne hwritten => checkVersion_again faults' hne hwritten⟩
  rw [checkAll_append, checkAll_cons] at hwritten ⊢
  dsimp only at hwritten ⊢
  have hearlier : s.Recorded earlier (s.checkAll earlier t).2 := by
    simpa using (recorded_of_notFound hmissing).checkAll
      fun outcome ho => hwritten outcome (List.mem_append_left _ ho)
  obtain ⟨t', heq, hkept, hrecorded⟩ :=
    hearlier.checkVersion (hwritten _ (List.mem_append_right _ List.mem_cons_self))
  have hafter : (s.checkAll (earlier ++ [c]) t).2 = t' := by
    rw [checkAll_append, checkAll_cons, heq]
    rfl
  rw [hafter, heq]
  refine ⟨?_, ?_, fun ⟨e, he, hle⟩ => hkept ?_⟩
  · rw [List.getElem?_append_right (length_checkAll ..).le, length_checkAll, Nat.sub_self]
    rfl
  · obtain ⟨r, hr, hversion⟩ := hrecorded.greatest_of_ne_nil (by simp)
    refine ⟨r, hr, hversion, fun old hold => ?_⟩
    obtain ⟨e, he, rfl⟩ := hearlier.mem_of_lastVersion hold
    exact ⟨e.version, e.read?_current, hr.le (List.mem_append_left _ he)⟩
  · rw [Check.due, if_neg (List.ne_nil_of_mem he), if_neg fun hall => (hall e he).not_ge hle]

/-- Two checks of one version, a check of one that is above it in number though not as a text, and a check
of one between the two. -/
def numbers : List Check × Check × List Check :=
  ([⟨Tree.noFaults, "1.9", ⟨1, 9, 0⟩, by decide⟩, ⟨Tree.noFaults, " 1.9.0", ⟨1, 9, 0⟩, by decide⟩],
    ⟨Tree.noFaults, "1.+10", ⟨1, 10, 0⟩, by decide⟩,
    [⟨Tree.noFaults, "1.9.1", ⟨1, 9, 1⟩, by decide⟩])

theorem checkVersion_ratchet_numbers :
    (atRoot.checkAll (numbers.1 ++ numbers.2.1 :: numbers.2.2) {}).1[2]? =
      some (.ok (some (.updated "1.+10"))) ∧
    (atRoot.checkVersion Tree.noFaults "latest"
      (atRoot.checkVersion Tree.noFaults "latest" numbered).2).1 = .ok none := by
  have hratchet := checkVersion_ratchet atRoot
  have hdue := (hratchet.1 {} numbers.1 numbers.2.1 numbers.2.2 (by decide +kernel) (by decide +kernel)).1
  have hagain := hratchet.2 numbered Tree.noFaults Tree.noFaults "latest" (by decide) (by decide +kernel)
  exact ⟨hdue.trans (by decide +kernel), hagain.trans (by decide +kernel)⟩

end Store

end ServerLink.State
