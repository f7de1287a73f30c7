import ServerLink.Proofs.Client.Course

/-!
The history of a run agrees with its state. Attempts that lie ahead have left no notes; of those that lie
behind, each reached nothing or its client is gone; and the last one is where the phase of the controller
says.
-/

namespace ServerLink.Controller

/-- Notes that do not tell of an attempt's connection. -/
structure Silent (attempt : Nat) (new : List Note) : Prop where
  acts : clientActs attempt new = []
  heard : heardBy attempt new = []
  connected : .connected attempt ∉ new

/-- The client of an attempt is gone: it has stopped in full, or was dropped when its handshake failed. -/
inductive Gone (attempt : Nat) (h : List Note) : Prop where
  | stopped (hstopped : Client.Stopped features (clientActs attempt h))
  | dropped (before after : List Note) (error : Client.Error)
      (hh : h = before ++ .did (.client attempt .hungUp) :: .did (.concluded (.failed error)) :: after)
      (hstays : ∀ act ∈ clientActs attempt before, act.isParting = false)
      (hsaid : Client.said (clientActs attempt before) = [] ∨
        ∃ offer, Client.said (clientActs attempt before) = [.introduce 1 offer])
      (hafter : clientActs attempt after = [])

/-- There is no connection of an attempt any more. -/
def Over (attempt : Nat) (h : List Note) : Prop :=
  Gone attempt h ∨ clientActs attempt h = [] ∧ .connected attempt ∉ h

/-- What the phase says of the connection of the last attempt. -/
def Phase.Describes (attempt : Nat) (h : List Note) : Phase → Prop
  | .idle => Over attempt h
  | .connecting .. => Silent attempt h
  | .opening _ c next =>
      c.features = features ∧ next.Course c (clientActs attempt h) (heardBy attempt h)
  | .active _ c =>
      c.features = features ∧ c.Sound (heardBy attempt h) ∧ c.Rests ∧
        Client.Talked (clientActs attempt h)
  | .closing c next _ =>
      c.features = features ∧
        Client.Farewell.Course c (heardBy attempt h) next (clientActs attempt h)

/-- A history that agrees with a state. -/
structure Coherent (h : List Note) (s : Controller) : Prop where
  future : ∀ k, s.attempts < k → Silent k h
  past : ∀ k, k < s.attempts → Over k h
  present : s.phase.Describes s.attempts h

/-- No connection is held after a history with a number of attempts. -/
structure Vacant (attempts : Nat) (h : List Note) : Prop where
  future : ∀ k, attempts < k → Silent k h
  past : ∀ k, k ≤ attempts → Over k h

theorem Coherent.describes {h : List Note} {s : Controller} (hc : Coherent h s) {p : Phase}
    (hphase : s.phase = p) : p.Describes s.attempts h :=
  hphase ▸ hc.present

theorem Silent.append {k : Nat} {h new : List Note} (hh : Silent k h) (hnew : Silent k new) :
    Silent k (h ++ new) := by
  refine ⟨by simp [hh.acts, hnew.acts], by simp [hh.heard, hnew.heard], ?_⟩
  intro hmem
  rcases List.mem_append.mp hmem with hmem | hmem
  · exact hh.connected hmem
  · exact hnew.connected hmem

theorem Gone.append {k : Nat} {h new : List Note} (hgone : Gone k h) (hnew : Silent k new) :
    Gone k (h ++ new) := by
  cases hgone with
  | stopped hstopped => exact .stopped (by simpa [hnew.acts] using hstopped)
  | dropped before after error hh hstays hsaid hafter =>
      refine .dropped before (after ++ new) error ?_ hstays hsaid ?_
      · simp [hh]
      · simp [hafter, hnew.acts]

theorem Over.append {k : Nat} {h new : List Note} (hover : Over k h) (hnew : Silent k new) :
    Over k (h ++ new) := by
  rcases hover with hgone | ⟨hacts, hconnected⟩
  · exact .inl (hgone.append hnew)
  · refine .inr ⟨by simp [hacts, hnew.acts], ?_⟩
    intro hmem
    exact (List.mem_append.mp hmem).elim hconnected hnew.connected

theorem Phase.Describes.append {p : Phase} {k : Nat} {h new : List Note} (hp : p.Describes k h)
    (hnew : Silent k new) : p.Describes k (h ++ new) := by
  have hacts : clientActs k (h ++ new) = clientActs k h := by simp [hnew.acts]
  have hheard : heardBy k (h ++ new) = heardBy k h := by simp [hnew.heard]
  cases p with
  | idle => exact Over.append hp hnew
  | connecting => exact Silent.append hp hnew
  | _ =>
      simp only [Phase.Describes, hacts, hheard]
      exact hp

theorem silent_nil (k : Nat) : Silent k [] :=
  ⟨rfl, rfl, nofun⟩

theorem silent_clientNotes {k attempt : Nat} (hne : k ≠ attempt) (acts : List Client.Act) :
    Silent k (clientNotes attempt acts) := by
  refine ⟨clientActs_clientNotes_of_ne hne.symm acts, heardBy_clientNotes k attempt acts,
    fun hmem => ?_⟩
  obtain ⟨act, -, hact⟩ := List.mem_map.mp hmem
  cases hact

theorem silent_heard {k attempt : Nat} (hne : k ≠ attempt) (frames : List Json) :
    Silent k (frames.map (.heard attempt)) := by
  refine ⟨clientActs_heard k attempt frames, ?_, fun hmem => ?_⟩
  · simp [heardBy, List.filterMap_map, hne.symm]
  · obtain ⟨frame, -, hframe⟩ := List.mem_map.mp hmem
    cases hframe

theorem silent_did (k : Nat) (act : Act) (hact : (Note.did act).clientAct? k = none) :
    Silent k [.did act] := by
  refine ⟨?_, rfl, nofun⟩
  simp [clientActs, hact]

theorem Begins.silent {s t : Controller} {new : List Note} (hbegins : s.Begins new t) (k : Nat) :
    Silent k new := by
  cases hbegins with
  | disabled => exact silent_did k _ rfl
  | attempted => exact silent_did k _ rfl

/-- What is noted of a move tells of no connection but that of the last attempt. -/
theorem Move.silent {s t : Controller} {new : List Note} (move : s.Move new t) {k : Nat}
    (hne : k ≠ s.attempts) : Silent k new := by
  cases move with
  | refused => exact silent_did k _ rfl
  | dismissed => exact silent_did k _ rfl
  | began _ hbegins => exact hbegins.silent k
  | connected =>
      refine ⟨rfl, rfl, ?_⟩
      intro hmem
      obtain h := List.mem_singleton.mp hmem
      cases h
      exact hne rfl
  | unreachable => exact (silent_did k _ rfl).append (silent_did k _ rfl)
  | unlaunched => exact silent_did k _ rfl
  | shook => exact silent_clientNotes hne _
  | started => exact (silent_clientNotes hne _).append (silent_did k _ rfl)
  | abandoned => exact (silent_clientNotes hne _).append (silent_did k _ rfl)
  | closed => exact silent_nil k
  | parting => exact silent_clientNotes hne _
  | gaveUp => exact silent_nil k
  | parted => exact silent_clientNotes hne _
  | partedOffering => exact (silent_clientNotes hne _).append (silent_did k _ rfl)
  | partedBeginning _ hbegins => exact (silent_clientNotes hne _).append (hbegins.silent k)
  | served => exact (silent_heard hne _).append (silent_clientNotes hne _)
  | passed => exact ⟨rfl, rfl, by simp⟩
  | told event =>
      have hreported : Silent k [.reported s.attempts event] := ⟨rfl, rfl, by simp⟩
      exact hreported.append (silent_clientNotes hne _)
  | toldFiles => exact silent_clientNotes hne _

theorem coherent_init : Coherent [] {} :=
  ⟨fun k _ => silent_nil k, fun k h => absurd h (Nat.not_lt_zero k), .inr ⟨rfl, nofun⟩⟩

theorem Coherent.stay {h new : List Note} {s t : Controller} (hc : Coherent h s)
    (move : s.Move new t) (hattempts : t.attempts = s.attempts)
    (hphase : t.phase.Describes s.attempts (h ++ new)) : Coherent (h ++ new) t where
  future k hk := by
    rw [hattempts] at hk
    exact (hc.future k hk).append (move.silent (Nat.ne_of_gt hk))
  past k hk := by
    rw [hattempts] at hk
    exact (hc.past k hk).append (move.silent (Nat.ne_of_lt hk))
  present := by
    rw [hattempts]
    exact hphase

theorem Vacant.append {attempts : Nat} {h new : List Note} (hv : Vacant attempts h)
    (hnew : ∀ k, Silent k new) : Vacant attempts (h ++ new) :=
  ⟨fun k hk => (hv.future k hk).append (hnew k), fun k hk => (hv.past k hk).append (hnew k)⟩

theorem Coherent.vacant {h : List Note} {s : Controller} (hc : Coherent h s)
    (hphase : s.phase = .idle) : Vacant s.attempts h := by
  refine ⟨hc.future, ?_⟩
  intro k hk
  rcases Nat.lt_or_eq_of_le hk with hk | rfl
  · exact hc.past k hk
  · exact hc.describes hphase

theorem Vacant.coherent {attempts : Nat} {h : List Note} {s : Controller} (hv : Vacant attempts h)
    (hattempts : s.attempts = attempts) (hphase : s.phase = .idle) : Coherent h s := by
  subst hattempts
  refine ⟨hv.future, fun k hk => hv.past k (Nat.le_of_lt hk), ?_⟩
  rw [hphase]
  exact hv.past _ (Nat.le_refl _)

theorem Vacant.begins {h new : List Note} {s t : Controller} (hv : Vacant s.attempts h)
    (hbegins : s.Begins new t) : Coherent (h ++ new) t := by
  have hall := hv.append hbegins.silent
  cases hbegins with
  | disabled => exact hall.coherent rfl rfl
  | attempted =>
      exact ⟨fun k hk => hall.future k (Nat.lt_of_succ_lt hk),
        fun k hk => hall.past k (Nat.le_of_lt_succ hk), hall.future _ (Nat.lt_succ_self _)⟩

/-- No connection is held any more once the client has hung up at the end of its farewell. -/
theorem Coherent.hungUp {h : List Note} {s : Controller} {c : Client} {sequel : Sequel}
    (hc : Coherent h s) (hphase : s.phase = .closing c .hangUp sequel) :
    Vacant s.attempts (h ++ clientNotes s.attempts [.hungUp]) := by
  constructor
  · intro k hk
    exact (hc.future k hk).append (silent_clientNotes (Nat.ne_of_gt hk) _)
  · intro k hk
    rcases Nat.lt_or_eq_of_le hk with hk | rfl
    · exact (hc.past k hk).append (silent_clientNotes (Nat.ne_of_lt hk) _)
    · obtain ⟨hfeatures, hcourse⟩ := hc.describes hphase
      refine .inl (.stopped ?_)
      rw [clientActs_append, clientActs_clientNotes, ← hfeatures]
      exact hcourse.stopped

theorem Coherent.served {h : List Note} {s : Controller} {c d : Client} {frames : List Json}
    {acts : List Client.Act} (hc : Coherent h s) (hheld : s.phase.client? = some c)
    (hserved : c.Served frames acts d) :
    (s.phase.setClient d).Describes s.attempts
      (h ++ (frames.map (.heard s.attempts) ++ clientNotes s.attempts acts)) := by
  have hfeatures := hserved.kept.features
  rcases Phase.eq_of_client? hheld with
    ⟨target, next, hphase⟩ | ⟨target, hphase⟩ | ⟨next, sequel, hphase⟩
  · obtain ⟨hcommon, hcourse⟩ := hc.describes hphase
    rw [hphase]
    exact ⟨hfeatures.trans hcommon, by simpa using hcourse.served hserved⟩
  · obtain ⟨hcommon, hsound, hrests, htalked⟩ := hc.describes hphase
    rw [hphase]
    refine ⟨hfeatures.trans hcommon, ?_, hrests.served hserved, ?_⟩
    · simpa using hsound.served hserved
    · simpa using htalked.append fun act hact => (hserved.aside act hact).isReporting
  · obtain ⟨hcommon, hcourse⟩ := hc.describes hphase
    rw [hphase]
    exact ⟨hfeatures.trans hcommon, by simpa using hcourse.served hserved⟩

theorem Coherent.move {h new : List Note} {s t : Controller} (hc : Coherent h s)
    (move : s.Move new t) : Coherent (h ++ new) t := by
  have hpresent := hc.present
  cases hmove : move with
  | refused hphase => exact hc.stay move rfl (hpresent.append (silent_did _ _ rfl))
  | dismissed prompt hready =>
      refine hc.stay move (s.attempts_dismiss prompt) ?_
      rw [phase_dismiss]
      exact hpresent.append (silent_did _ _ rfl)
  | began hphase hbegins => exact (hc.vacant hphase).begins hbegins
  | connected hphase =>
      obtain ⟨hacts, hheard, -⟩ := hc.describes hphase
      refine hc.stay move rfl ⟨rfl, ?_⟩
      have hnew : clientActs s.attempts [.connected s.attempts] = [] ∧
          heardBy s.attempts [.connected s.attempts] = [] := ⟨rfl, rfl⟩
      rw [clientActs_append, heardBy_append, hacts, hheard, hnew.1, hnew.2]
      exact Client.Handshake.course_fresh _ _
  | unreachable hphase =>
      have hnew := (silent_did s.attempts (.offered (.ofId s.nextPrompt)) rfl).append
        (silent_did s.attempts (.concluded (.unreachable s.nextPrompt)) rfl)
      have hall := Silent.append (hc.describes hphase) hnew
      exact hc.stay move rfl (.inr ⟨hall.acts, hall.connected⟩)
  | unlaunched error hphase =>
      have hall := Silent.append (hc.describes hphase) (silent_did s.attempts (.concluded (.failed error)) rfl)
      exact hc.stay move rfl (.inr ⟨hall.acts, hall.connected⟩)
  | shook hphase hstep =>
      obtain ⟨hfeatures, hcourse⟩ := hc.describes hphase
      exact hc.stay move rfl
        ⟨(Client.Handshake.unchanged_step hstep).1.trans hfeatures, by simpa using hcourse.step hstep⟩
  | started hphase hstep =>
      obtain ⟨hfeatures, hcourse⟩ := hc.describes hphase
      obtain ⟨rfl, rfl, rfl⟩ := handshake_done hstep
      obtain ⟨hrests, htalked, -⟩ := hcourse.conclude
      refine hc.stay move rfl ?_
      rw [← List.append_assoc]
      refine Phase.Describes.append ?_ (silent_did _ (.concluded .started) rfl)
      refine ⟨hfeatures, ?_, hrests, ?_⟩
      · simpa using hcourse.sound
      · simpa using htalked
  | abandoned error hphase hcause =>
      obtain ⟨-, hcourse⟩ := hc.describes hphase
      refine hc.stay move rfl (.inl ?_)
      exact .dropped h [] error rfl hcourse.stays hcourse.said_or rfl
  | @closed target c sequel hphase hsequel =>
      obtain ⟨hfeatures, hsound, hrests, htalked⟩ := hc.describes hphase
      have hready : Client.Farewell.Ready c .dispose [] (heardBy s.attempts h) :=
        ⟨hsound, by simp [hrests.pending], nofun, rfl, hrests.nextId⟩
      exact hc.stay move rfl (by simpa using ⟨hfeatures, .talking htalked hready⟩)
  | parting hphase hstep =>
      obtain ⟨hfeatures, hcourse⟩ := hc.describes hphase
      obtain ⟨hsame, hcourse'⟩ := hcourse.step hstep
      exact hc.stay move rfl ⟨hsame.trans hfeatures, by simpa using hcourse'⟩
  | gaveUp hphase hexpire =>
      obtain ⟨hfeatures, hcourse⟩ := hc.describes hphase
      obtain ⟨hsame, hcourse'⟩ := hcourse.expire hexpire
      exact hc.stay move rfl ⟨hsame.trans hfeatures, by simpa using hcourse'⟩
  | parted hphase => exact (hc.hungUp hphase).coherent rfl rfl
  | partedOffering hphase =>
      rw [← List.append_assoc]
      exact ((hc.hungUp hphase).append fun k => silent_did k _ rfl).coherent rfl rfl
  | partedBeginning hphase hbegins =>
      rw [← List.append_assoc]
      exact (hc.hungUp hphase).begins hbegins
  | served hheld hserved => exact hc.stay move rfl (hc.served hheld hserved)
  | passed event hphase hcovers =>
      exact hc.stay move rfl (hpresent.append ⟨rfl, rfl, by simp⟩)
  | @told target c event hphase hcovers =>
      obtain ⟨hfeatures, hsound, hrests, htalked⟩ := hc.describes hphase
      refine hc.stay move rfl ⟨hfeatures, ?_, ⟨hrests.nextId, hrests.pending⟩, ?_⟩
      · simpa using hsound.of_pending (d := (c.report ..).1) rfl rfl fun _ hid => hid
      · simpa using htalked.append (c.isReporting_report event.url.text event.language event.deed)
  | @toldFiles target c changes hphase =>
      obtain ⟨hfeatures, hsound, hrests, htalked⟩ := hc.describes hphase
      refine hc.stay move rfl ?_
      rw [hphase]
      refine ⟨hfeatures, by simpa using hsound, hrests, ?_⟩
      have hnew : ∀ act ∈ c.reportChanges changes, act.IsReporting := c.isReporting_write rfl
      simpa using htalked.append hnew

/-- What every move from a coherent history keeps holds of every run. -/
theorem coherent_induction (kept : List Note → Controller → Prop) (hinit : kept [] {})
    (hmove : ∀ h s new t, Coherent h s → kept h s → s.Move new t → kept (h ++ new) t)
    (inputs : List (Editor × Input)) : kept (history {} inputs) (run {} inputs).1 := by
  have hall (h : List Note) (s : Controller) (moves : Moves {} h s) : Coherent h s ∧ kept h s := by
    induction moves with
    | none => exact ⟨coherent_init, hinit⟩
    | snoc _ move ih => exact ⟨ih.1.move move, hmove _ _ _ _ ih.1 ih.2 move⟩
  exact (hall _ _ (moves_history {} inputs)).2

theorem coherent_history (inputs : List (Editor × Input)) :
    Coherent (history {} inputs) (run {} inputs).1 :=
  coherent_induction Coherent coherent_init (fun _ _ _ _ hc _ move => hc.move move) inputs

/-- What holds of every note that a move from a coherent history adds holds throughout every history. -/
theorem throughout_history {fits : List Note → Note → Prop}
    (hfits : ∀ h s new t, Coherent h s → s.Move new t →
      Throughout (fun before note => fits (h ++ before) note) new)
    (inputs : List (Editor × Input)) : Throughout fits (history {} inputs) := by
  refine coherent_induction (fun h _ => Throughout fits h) (throughout_nil fits) ?_ inputs
  intro h s new t hc hthroughout move
  exact hthroughout.append (hfits h s new t hc move)

end ServerLink.Controller
