import ServerLink.Proofs.Controller.Coherence

namespace ServerLink.Controller

theorem Over.gone {k : Nat} {h : List Note} (hover : Over k h) (hconnected : .connected k ∈ h) :
    Gone k h := by
  rcases hover with hgone | ⟨-, hnone⟩
  · exact hgone
  · exact absurd hconnected hnone

theorem Vacant.gone {attempts : Nat} {h : List Note} (hv : Vacant attempts h) {k : Nat}
    (hconnected : .connected k ∈ h) : k ≤ attempts ∧ Gone k h := by
  have hk : k ≤ attempts := Nat.le_of_not_lt fun hk => (hv.future k hk).connected hconnected
  exact ⟨hk, (hv.past k hk).gone hconnected⟩

theorem Begins.attempted_mem {s t : Controller} {new : List Note} (hbegins : s.Begins new t)
    {n : Nat} {target : Target} (hmem : .did (.attempted n target) ∈ new) :
    n = s.attempts + 1 ∧ new = [.did (.attempted n target)] := by
  cases hbegins with
  | disabled => simp at hmem
  | attempted e target htarget =>
      cases List.mem_singleton.mp hmem
      exact ⟨rfl, rfl⟩

theorem Coherent.vacant_of_attempted {h new before after : List Note} {s t : Controller}
    (hc : Coherent h s) (move : s.Move new t) {n : Nat} {target : Target}
    (hnew : new = before ++ .did (.attempted n target) :: after) :
    n = s.attempts + 1 ∧ Vacant s.attempts (h ++ before) := by
  have hmem : .did (.attempted n target) ∈ new := by simp [hnew]
  cases move with
  | began hphase hbegins =>
      obtain ⟨hn, rfl⟩ := hbegins.attempted_mem hmem
      refine ⟨hn, ?_⟩
      cases before with
      | nil => simpa using hc.vacant hphase
      | cons first before => simp at hnew
  | @partedBeginning c notes _ hphase hbegins =>
      have hmem' : .did (.attempted n target) ∈ notes := by simpa [clientNotes] using hmem
      obtain ⟨hn, rfl⟩ := hbegins.attempted_mem hmem'
      refine ⟨hn, ?_⟩
      cases before with
      | nil => cases hnew
      | cons first before =>
          cases before with
          | nil =>
              obtain ⟨rfl, -⟩ := List.cons.inj hnew
              exact hc.hungUp hphase
          | cons second before => simp [clientNotes] at hnew
  | _ => simp [clientNotes] at hmem

/-- The connections that are gone before a target is tried: all there were. -/
def Cleared (before : List Note) (note : Note) : Prop :=
  ∀ n target, note = .did (.attempted n target) →
    ∀ k, .connected k ∈ before → k < n ∧ Gone k before

theorem cleared_history (inputs : List (Editor × Input)) :
    Throughout Cleared (history {} inputs) := by
  refine throughout_history ?_ inputs
  intro h s new t hc move
  rintro before note after hnew n target rfl k hconnected
  obtain ⟨rfl, hvacant⟩ := hc.vacant_of_attempted move hnew
  obtain ⟨hk, hgone⟩ := hvacant.gone hconnected
  exact ⟨Nat.lt_succ_of_le hk, hgone⟩

theorem Coherent.gone_or {h : List Note} {s : Controller} (hc : Coherent h s) {k : Nat}
    (hconnected : .connected k ∈ h) :
    Gone k h ∨ k = s.attempts ∧ s.phase.client?.isSome = true := by
  rcases Nat.lt_trichotomy k s.attempts with hk | rfl | hk
  · exact .inl ((hc.past k hk).gone hconnected)
  · cases hphase : s.phase with
    | idle => exact .inl (Over.gone (hc.describes hphase) hconnected)
    | connecting => exact absurd hconnected (Silent.connected (hc.describes hphase))
    | _ => exact .inr ⟨rfl, rfl⟩
  · exact absurd hconnected (hc.future k hk).connected

/-- Whether something comes from the connection of an attempt. -/
def Input.isFrom (k : Nat) : Input → Bool
  | .arrive attempt _ | .wind attempt | .jam attempt => attempt == k
  | _ => false

theorem Coherent.client?_of_hungUp {h : List Note} {s : Controller} (hc : Coherent h s) {k : Nat}
    (hhungUp : .hungUp ∈ clientActs k h) : k = s.attempts → s.phase.client? = none := by
  rintro rfl
  cases hphase : s.phase with
  | idle => rfl
  | connecting => rfl
  | opening target c next =>
      obtain ⟨-, hcourse⟩ := hc.describes hphase
      exact nomatch hcourse.stays _ hhungUp
  | active target c =>
      obtain ⟨-, -, -, htalked⟩ := hc.describes hphase
      exact nomatch htalked.stays _ hhungUp
  | closing c next sequel =>
      obtain ⟨-, hcourse⟩ := hc.describes hphase
      exact absurd hhungUp hcourse.hungUp_notMem

theorem step_of_not_held (e : Editor) {s : Controller} {k : Nat} {i : Input}
    (hnot : k = s.attempts → s.phase.client? = none) (hi : i.isFrom k = true) :
    s.step e i = (s, []) := by
  cases i <;> simp only [Input.isFrom, beq_iff_eq] at hi
  case arrive attempt r =>
    subst hi
    exact onClient_of_not_held hnot _
  case wind attempt =>
    subst hi
    exact onClient_of_not_held hnot fun c => (c.wind, [])
  case jam attempt =>
    subst hi
    exact onClient_of_not_held hnot fun c => (c.jam, [])
  all_goals cases hi

theorem Coherent.settled {h : List Note} {s : Controller} (hc : Coherent h s) {c : Client}
    {sequel : Sequel} (hphase : s.phase = .closing c .hangUp sequel) : c.waiting.pending = [] := by
  obtain ⟨-, hcourse⟩ := hc.describes hphase
  generalize clientActs s.attempts h = acts at hcourse
  cases hcourse with
  | parting hnext talked ready => exact List.eq_nil_of_subset_nil fun id => ready.pending id

/-- At any point of any run: a target was only ever tried when every connection there had been was gone, by
a farewell in full, after which no request waits, or by a failed handshake; no connection is left but that
of the client that is held; a start with an active client does nothing; and nothing that comes from a
connection whose client has hung up has any effect. -/
theorem one_connection (inputs : List (Editor × Input)) :
    (∀ before n target after,
      history {} inputs = before ++ .did (.attempted n target) :: after →
      ∀ k, .connected k ∈ before → k < n ∧ Gone k before) ∧
    (∀ c sequel, (run {} inputs).1.phase = .closing c .hangUp sequel → c.waiting.pending = []) ∧
    (∀ k, .connected k ∈ history {} inputs → Gone k (history {} inputs) ∨
      k = (run {} inputs).1.attempts ∧ (run {} inputs).1.phase.client?.isSome = true) ∧
    ((run {} inputs).1.active?.isSome = true → ∀ e,
      (run {} inputs).1.step e (.perform .start) =
        ((run {} inputs).1, [.concluded .alreadyActive])) ∧
    (∀ k, .did (.client k .hungUp) ∈ history {} inputs → ∀ e i, i.isFrom k = true →
      (run {} inputs).1.step e i = ((run {} inputs).1, [])) := by
  have hc := coherent_history inputs
  refine ⟨?_, ?_, ?_, ?_, ?_⟩
  · intro before n target after hh
    exact cleared_history inputs before _ after hh n target rfl
  · intro c sequel hphase
    exact hc.settled hphase
  · intro k hconnected
    exact hc.gone_or hconnected
  · intro hactive e
    cases hphase : (run {} inputs).1.phase with
    | active target c => simp [step, isReady, perform, active?, hphase]
    | _ => simp [active?, hphase] at hactive
  · intro k hhungUp e i hi
    exact step_of_not_held e (hc.client?_of_hungUp (mem_clientActs.mpr hhungUp)) hi

end ServerLink.Controller
