import ServerLink.Proofs.Controller.Coherence

namespace ServerLink

namespace Client

/-- Requests and notifications in the order in which a client may write them. -/
def InOrder (messages : List Message) : Prop :=
  ∃ offer reports, (∀ m ∈ reports, m.isReport = true) ∧
    messages <+: .introduce 1 offer :: .introduced :: (reports ++ [.shutdown 2, .exit])

theorem inOrder_nil : InOrder [] :=
  ⟨⟨"", 0, none, .null⟩, [], nofun, List.nil_prefix⟩

theorem inOrder_of_said_or {messages : List Message}
    (h : messages = [] ∨ ∃ offer, messages = [.introduce 1 offer]) : InOrder messages := by
  rcases h with rfl | ⟨offer, rfl⟩
  · exact inOrder_nil
  · exact ⟨offer, [], nofun, _, rfl⟩

theorem Talked.inOrder {acts : List Act} (ht : Talked acts) {more : List Message}
    (hmore : more <+: [.shutdown 2, .exit]) : InOrder (Client.said acts ++ more) := by
  obtain ⟨offer, reports, hsaid, hreports⟩ := ht.said
  obtain ⟨rest, hrest⟩ := hmore
  exact ⟨offer, reports, hreports, rest, by simp [hsaid, hrest]⟩

theorem Stopped.inOrder {features : List Feature} {acts : List Act} (h : Stopped features acts) :
    InOrder (said acts) := by
  obtain ⟨earlier, later, rfl, htalked, -, hlater⟩ := h
  simpa [said_disposals] using htalked.inOrder hlater

theorem Farewell.Course.inOrder {c : Client} {heard : List Json} {next : Farewell}
    {acts : List Act} (h : Farewell.Course c heard next acts) : InOrder (said acts) := by
  cases h with
  | talking talked ready => simpa using talked.inOrder List.nil_prefix
  | parting hnext talked ready =>
      simpa [said_disposals] using talked.inOrder ready.said.isPrefix

/-- What has to be heard before a message is written. -/
def Message.Warranted (heard : List Json) : Message → Prop
  | .introduced => Granted 1 heard
  | .exit => Granted 2 heard
  | _ => True

theorem Message.Warranted.mono {m : Message} {heard : List Json} (h : m.Warranted heard)
    (more : List Json) : m.Warranted (heard ++ more) := by
  cases m with
  | introduced => exact Granted.mono h more
  | exit => exact Granted.mono h more
  | _ => trivial

theorem warranted_of_isReport {m : Message} (hreport : m.isReport = true) (heard : List Json) :
    m.Warranted heard := by
  cases m with
  | introduced => cases hreport
  | exit => cases hreport
  | _ => trivial

theorem Handshake.warranted {c d : Client} {next next' : Handshake} {acts : List Act}
    (hstep : next.step c = (.next d next', acts)) (heard : List Json) :
    ∀ m ∈ said acts, m.Warranted heard := by
  rcases said_step hstep with hsaid | ⟨id, offer, hsaid⟩ <;> rw [hsaid]
  · nofun
  · intro m hm
    obtain rfl := List.mem_singleton.mp hm
    trivial

theorem Farewell.Course.warranted {c d : Client} {next next' : Farewell} {acts new : List Act}
    {heard : List Json} (hc : Farewell.Course c heard next acts)
    (hstep : next.step c = (.next d next', new)) : ∀ m ∈ Client.said new, m.Warranted heard := by
  rcases said_step hstep with hsaid | ⟨id, rfl, hsaid⟩ | ⟨rfl, hsaid⟩ <;> rw [hsaid]
  · nofun
  · intro m hm
    obtain rfl := List.mem_singleton.mp hm
    trivial
  · intro m hm
    obtain rfl := List.mem_singleton.mp hm
    cases hc with
    | parting _ _ ready => exact ready.holds

end Client

namespace Controller

theorem Gone.inOrder {k : Nat} {h : List Note} (hgone : Gone k h) :
    Client.InOrder (Client.said (clientActs k h)) := by
  cases hgone with
  | stopped hstopped => exact hstopped.inOrder
  | dropped before after error hh hstays hsaid hafter =>
      have hacts : clientActs k h = clientActs k before ++ [.hungUp] := by
        rw [hh, clientActs_append]
        simpa [clientActs, Note.clientAct?] using hafter
      rw [hacts, Client.said_append]
      exact Client.inOrder_of_said_or (by simpa using hsaid)

theorem Over.inOrder {k : Nat} {h : List Note} (hover : Over k h) :
    Client.InOrder (Client.said (clientActs k h)) := by
  rcases hover with hgone | ⟨hacts, -⟩
  · exact hgone.inOrder
  · rw [hacts]
    exact Client.inOrder_nil

theorem Phase.Describes.inOrder {p : Phase} {k : Nat} {h : List Note} (hp : p.Describes k h) :
    Client.InOrder (Client.said (clientActs k h)) := by
  cases p with
  | idle => exact Over.inOrder hp
  | connecting =>
      rw [Silent.acts hp]
      exact Client.inOrder_nil
  | opening => exact Client.inOrder_of_said_or hp.2.said_or
  | active => simpa using Client.Talked.inOrder hp.2.2.2 List.nil_prefix
  | closing => exact hp.2.inOrder

theorem Coherent.inOrder {h : List Note} {s : Controller} (hc : Coherent h s) (k : Nat) :
    Client.InOrder (Client.said (clientActs k h)) := by
  rcases Nat.lt_trichotomy k s.attempts with hk | rfl | hk
  · exact (hc.past k hk).inOrder
  · exact hc.present.inOrder
  · rw [(hc.future k hk).acts]
    exact Client.inOrder_nil

/-- What a move has the client that is held say. -/
inductive Utters (s : Controller) : List Client.Message → Prop where
  | nothing : Utters s []
  | shook {target : Target} {c d : Client} {next next' : Client.Handshake} {acts : List Client.Act}
      (hphase : s.phase = .opening target c next) (hstep : next.step c = (.next d next', acts)) :
      Utters s (Client.said acts)
  | started {target : Target} {c d : Client} {next : Client.Handshake} {acts : List Client.Act}
      (hphase : s.phase = .opening target c next) (hstep : next.step c = (.done d, acts)) :
      Utters s (Client.said acts)
  | reported {target : Target} {c : Client} {messages : List Client.Message}
      (hphase : s.phase = .active target c) (hreports : ∀ m ∈ messages, m.isReport = true) :
      Utters s messages
  | parting {c d : Client} {next next' : Client.Farewell} {sequel : Sequel}
      {acts : List Client.Act} (hphase : s.phase = .closing c next sequel)
      (hstep : next.step c = (.next d next', acts)) : Utters s (Client.said acts)

theorem Move.utters {s t : Controller} {new : List Note} (move : s.Move new t) :
    s.Utters (Client.said (clientActs s.attempts new)) := by
  have hbegins {notes : List Note} {u : Controller} (hbegins : s.Begins notes u) :
      clientActs s.attempts notes = [] := (hbegins.silent _).acts
  cases move with
  | began hphase hb =>
      rw [hbegins hb]
      exact .nothing
  | shook hphase hstep =>
      rw [clientActs_clientNotes]
      exact .shook hphase hstep
  | started hphase hstep =>
      rw [clientActs_append, clientActs_clientNotes, (silent_did _ (.concluded .started) rfl).acts,
        List.append_nil]
      exact .started hphase hstep
  | parting hphase hstep =>
      rw [clientActs_clientNotes]
      exact .parting hphase hstep
  | partedBeginning hphase hb =>
      rw [clientActs_append, clientActs_clientNotes, hbegins hb]
      exact .nothing
  | served hheld hserved =>
      rw [clientActs_append, clientActs_heard, clientActs_clientNotes, List.nil_append,
        Client.said_of_aside hserved.aside]
      exact .nothing
  | @told target c event hphase hcovers =>
      rw [clientActs_reported, clientActs_clientNotes]
      exact .reported hphase fun m hm =>
        Client.isReport_of_mem_said (c.isReporting_report _ _ _) hm
  | @toldFiles target c changes hphase =>
      rw [clientActs_clientNotes]
      exact .reported hphase fun m hm => Client.isReport_of_mem_said (c.isReporting_write rfl) hm
  | abandoned =>
      rw [clientActs_append, clientActs_clientNotes, (silent_did _ (.concluded (.failed _)) rfl).acts]
      exact .nothing
  | parted => 
      rw [clientActs_clientNotes]
      exact .nothing
  | partedOffering =>
      rw [clientActs_append, clientActs_clientNotes, (silent_did _ (.offered _) rfl).acts]
      exact .nothing
  | _ => exact .nothing

theorem Coherent.warranted {h new : List Note} {s t : Controller} (hc : Coherent h s)
    (move : s.Move new t) (k : Nat) :
    ∀ m ∈ Client.said (clientActs k new), m.Warranted (heardBy k h) := by
  by_cases hk : k = s.attempts
  · subst hk
    have hutters := move.utters
    generalize Client.said (clientActs s.attempts new) = messages at hutters
    cases hutters with
    | nothing => nofun
    | shook hphase hstep => exact Client.Handshake.warranted hstep _
    | started hphase hstep =>
        obtain ⟨rfl, -, rfl⟩ := handshake_done hstep
        obtain ⟨-, hcourse⟩ := hc.describes hphase
        obtain ⟨-, -, hgranted⟩ := hcourse.conclude
        intro m hm
        obtain rfl := List.mem_singleton.mp hm
        exact hgranted
    | reported hphase hreports =>
        exact fun m hm => Client.warranted_of_isReport (hreports m hm) _
    | parting hphase hstep =>
        obtain ⟨-, hcourse⟩ := hc.describes hphase
        exact hcourse.warranted hstep
  · rw [(move.silent hk).acts]
    nofun

/-- Whether a message that is written is warranted by what was heard before. -/
def Warranted (before : List Note) (note : Note) : Prop :=
  ∀ k m, note = .did (.client k (.wrote m)) → m.Warranted (heardBy k before)

theorem warranted_history (inputs : List (Editor × Input)) :
    Throughout Warranted (history {} inputs) := by
  refine throughout_history ?_ inputs
  intro h s new t hc move
  rintro before note after rfl k m rfl
  rw [heardBy_append]
  cases hsaid : (Client.Act.wrote m).said? with
  | none =>
      cases m with
      | reply => trivial
      | _ => cases hsaid
  | some n =>
      obtain rfl : m = n := by
        cases m with
        | reply => cases hsaid
        | _ => exact Option.some.inj hsaid
      refine (hc.warranted move k m ?_).mono _
      refine List.mem_filterMap.mpr ⟨.wrote m, ?_, hsaid⟩
      exact mem_clientActs.mpr (List.mem_append_right _ List.mem_cons_self)

/-- Whether the farewell has found the client that is held connected and has not asked the server to shut
down yet. -/
def Phase.isAsking : Phase → Bool
  | .closing _ .enter _ | .closing _ (.write _) _ => true
  | _ => false

/-- Whether the client that is held, if any, will not ask the server to shut down any more. -/
def Phase.isForsaken : Phase → Bool
  | .idle | .closing _ (.await _) _ | .closing _ .exit _ | .closing _ .hangUp _ => true
  | .opening _ c _ | .active _ c | .closing c .dispose _ | .closing c .unsubscribe _
  | .closing c .check _ => !c.isConnected
  | _ => false

theorem Phase.isForsaken_of_lost {p : Phase} {c : Client} (hc : p.client? = some c)
    (hlost : c.isConnected = false) (hasking : p.isAsking = false) : p.isForsaken = true := by
  rcases eq_of_client? hc with ⟨target, next, rfl⟩ | ⟨target, rfl⟩ | ⟨next, sequel, rfl⟩
  · simp [isForsaken, hlost]
  · simp [isForsaken, hlost]
  · cases next with
    | enter | write => cases hasking
    | _ => simp [isForsaken, hlost]

/-- The client of an attempt will not ask the server to shut down any more. -/
def Forsaken (k : Nat) (s : Controller) : Prop :=
  k < s.attempts ∨ k = s.attempts ∧ s.phase.isForsaken = true

theorem Phase.isForsaken_setClient {p : Phase} {c d : Client} (hc : p.client? = some c)
    (hlost : c.isConnected = false → d.isConnected = false) (h : p.isForsaken = true) :
    (p.setClient d).isForsaken = true := by
  rcases eq_of_client? hc with ⟨target, next, rfl⟩ | ⟨target, rfl⟩ | ⟨next, sequel, rfl⟩
  · simpa [setClient, isForsaken] using hlost (by simpa [isForsaken] using h)
  · simpa [setClient, isForsaken] using hlost (by simpa [isForsaken] using h)
  · cases next with
    | dispose | unsubscribe | check =>
        simpa [setClient, isForsaken] using hlost (by simpa [isForsaken] using h)
    | enter | write => cases h
    | await | exit | hangUp => rfl

theorem Forsaken.begins {s t : Controller} {new : List Note} {k : Nat} (hk : k ≤ s.attempts)
    (hbegins : s.Begins new t) : Forsaken k t := by
  cases hbegins with
  | disabled => exact (Nat.lt_or_eq_of_le hk).imp id fun h => ⟨h, rfl⟩
  | attempted => exact .inl (Nat.lt_succ_of_le hk)

theorem Forsaken.farewell {c d : Client} {next next' : Client.Farewell} {sequel : Sequel}
    {acts : List Client.Act} (h : (Phase.closing c next sequel).isForsaken = true)
    (hstep : next.step c = (.next d next', acts)) :
    (Phase.closing d next' sequel).isForsaken = true := by
  cases next <;> simp only [Phase.isForsaken, Client.Farewell.step] at h hstep
  case dispose | unsubscribe =>
    cases hstep
    exact h
  case check =>
    cases hstep
    have hlost : c.isConnected = false := by simpa using h
    simp [hlost, Phase.isForsaken]
  case await =>
    split at hstep <;> cases hstep
    · split <;> rfl
    · rfl
  case exit =>
    cases hstep
    rfl
  case hangUp => cases hstep
  all_goals cases h

theorem Forsaken.move {k : Nat} {s t : Controller} {new : List Note} (hf : Forsaken k s)
    (move : s.Move new t) : Forsaken k t := by
  rcases hf with hlt | ⟨rfl, hforsaken⟩
  · exact .inl (Nat.lt_of_lt_of_le hlt move.attempts_le)
  · cases move with
    | refused => exact .inr ⟨rfl, hforsaken⟩
    | dismissed prompt => exact .inr ⟨by simp, by simpa using hforsaken⟩
    | began hphase hbegins => exact .begins (Nat.le_refl _) hbegins
    | connected hphase => simp [hphase, Phase.isForsaken] at hforsaken
    | unreachable => exact .inr ⟨rfl, rfl⟩
    | unlaunched => exact .inr ⟨rfl, rfl⟩
    | shook hphase hstep =>
        rw [hphase] at hforsaken
        obtain ⟨-, -, hinflow, -⟩ := Client.Handshake.unchanged_step hstep
        refine .inr ⟨rfl, ?_⟩
        simpa [Phase.isForsaken, Client.isConnected, hinflow] using hforsaken
    | started hphase hstep =>
        rw [hphase] at hforsaken
        obtain ⟨-, rfl, -⟩ := handshake_done hstep
        exact .inr ⟨rfl, hforsaken⟩
    | abandoned => exact .inr ⟨rfl, rfl⟩
    | closed sequel hphase =>
        rw [hphase] at hforsaken
        exact .inr ⟨rfl, hforsaken⟩
    | parting hphase hstep =>
        rw [hphase] at hforsaken
        exact .inr ⟨rfl, Forsaken.farewell hforsaken hstep⟩
    | @gaveUp c d next next' sequel hphase hexpire =>
        unfold Client.Farewell.expire at hexpire
        split at hexpire
        · split at hexpire <;> cases hexpire
          exact .inr ⟨rfl, rfl⟩
        · cases hexpire
    | parted => exact .inr ⟨rfl, rfl⟩
    | partedOffering => exact .inr ⟨rfl, rfl⟩
    | partedBeginning hphase hbegins => exact .begins (Nat.le_refl _) hbegins
    | served hheld hserved =>
        exact .inr ⟨rfl, Phase.isForsaken_setClient hheld hserved.isConnected hforsaken⟩
    | passed => exact .inr ⟨rfl, hforsaken⟩
    | told event hphase =>
        rw [hphase] at hforsaken
        exact .inr ⟨rfl, hforsaken⟩
    | toldFiles => exact .inr ⟨rfl, hforsaken⟩

theorem Forsaken.utters {k : Nat} {s t : Controller} {new : List Note} (hf : Forsaken k s)
    (move : s.Move new t) (id : Nat) : .shutdown id ∉ Client.said (clientActs k new) := by
  rcases hf with hlt | ⟨rfl, hforsaken⟩
  · rw [(move.silent (Nat.ne_of_lt hlt)).acts]
    nofun
  · have hutters := move.utters
    generalize Client.said (clientActs s.attempts new) = messages at hutters
    cases hutters with
    | nothing => nofun
    | shook hphase hstep =>
        rcases Client.Handshake.said_step hstep with hsaid | ⟨_, _, hsaid⟩ <;> simp [hsaid]
    | started hphase hstep =>
        obtain ⟨-, -, rfl⟩ := handshake_done hstep
        intro hid
        cases List.mem_singleton.mp hid
    | reported hphase hreports => exact fun hid => nomatch hreports _ hid
    | parting hphase hstep =>
        rw [hphase] at hforsaken
        rcases Client.Farewell.said_step hstep with hsaid | ⟨_, rfl, -⟩ | ⟨-, hsaid⟩
        · simp [hsaid]
        · cases hforsaken
        · simp [hsaid]

theorem Forsaken.moves {k : Nat} {s t : Controller} {new : List Note} (hf : Forsaken k s)
    (moves : s.Moves new t) :
    Forsaken k t ∧ ∀ id, .shutdown id ∉ Client.said (clientActs k new) := by
  induction moves with
  | none => exact ⟨hf, nofun⟩
  | snoc _ move ih =>
      obtain ⟨hmiddle, hnone⟩ := ih
      refine ⟨hmiddle.move move, ?_⟩
      intro id hid
      rw [clientActs_append, Client.said_append] at hid
      exact (List.mem_append.mp hid).elim (hnone id) (hmiddle.utters move id)

/-- For every run and every connection: what is written on it is in order; the word that the introduction
is over, and the exit, come only after the answers that allow them; and once the client has noticed the end
of its connection, it does not ask the server to shut down any more, unless its farewell has found it
connected before. The farewell looks once: what is noticed between that and the request comes too late. -/
theorem writes_in_order (inputs : List (Editor × Input)) (k : Nat) :
    Client.InOrder (Client.said (clientActs k (history {} inputs))) ∧
    (∀ before after,
      history {} inputs = before ++ .did (.client k (.wrote .introduced)) :: after →
      Client.Granted 1 (heardBy k before)) ∧
    (∀ before after,
      history {} inputs = before ++ .did (.client k (.wrote .exit)) :: after →
      Client.Granted 2 (heardBy k before)) ∧
    (∀ before after, inputs = before ++ after → (run {} before).1.attempts = k →
      ∀ c, (run {} before).1.phase.client? = some c → c.isConnected = false →
      (run {} before).1.phase.isAsking = false →
      ∀ id, .shutdown id ∉ Client.said (clientActs k (history (run {} before).1 after))) := by
  have hwarranted := warranted_history inputs
  refine ⟨(coherent_history inputs).inOrder k, ?_, ?_, ?_⟩
  · intro before after hh
    exact hwarranted _ _ _ hh k _ rfl
  · intro before after hh
    exact hwarranted _ _ _ hh k _ rfl
  · rintro before after - rfl c hc hlost hasking
    have hforsaken : Forsaken _ (run {} before).1 :=
      .inr ⟨rfl, Phase.isForsaken_of_lost hc hlost hasking⟩
    exact (hforsaken.moves (moves_history (run {} before).1 after)).2

/-- A client is stopped, and the server hangs up between the look at the connection and the request. -/
def lossBehindLook : List (Editor × Input) :=
  let answer : Json := .ofFields [("id", .nat 1), ("result", .null)]
  [.perform .start, .reached .established, .proceed, .proceed, .proceed, .arrive 1 (.frame answer),
    .proceed, .proceed, .proceed, .perform .stop, .proceed, .proceed, .proceed, .proceed,
    .arrive 1 .ended, .wind 1, .wind 1].map (⟨{}, ⟨[]⟩, none, 0⟩, ·)

/-- The client has noticed the end of the connection and asks the server to shut down all the same. -/
theorem shutdown_after_noticed_loss :
    (∃ c, (run {} lossBehindLook).1.phase.client? = some c ∧ c.isConnected = false) ∧
      (run {} lossBehindLook).1.attempts = 1 ∧
      Client.said (clientActs 1 ((run {} lossBehindLook).1.history
        [(⟨{}, ⟨[]⟩, none, 0⟩, .proceed)])) = [.shutdown 2] :=
  ⟨⟨_, rfl, rfl⟩, rfl, rfl⟩

end Controller

end ServerLink
