import ServerLink.Proofs.Client.Calls
import ServerLink.Proofs.Controller.Coherence

/-!
The life of a feature in a run. Its client leads it through the stages of its life in their order, one by one,
and to the last one if the client was started and stopped; in between, before and after, it is called to register
and to unregister whatever the server asks for.
-/

namespace ServerLink

namespace Controller

/-- The controller that is about to open a client with some features. -/
def opens (target : Target) (options : Client.Options) (features : List Feature) : Controller where
  phase := .opening target { options, features } .prepare
  attempts := 1

/-- The stages through which the features of the client that is held have been led. -/
def Phase.stages : Phase → List Feature.Stage
  | .opening _ _ next => next.stages
  | .active .. => [.contribute, .setUp]
  | .closing _ next _ => next.stages
  | _ => []

/-- The features of the first client have been led through some stages, and have registered and unregistered
what its server asked for. -/
structure Led (features : List Feature) (stages : List Feature.Stage) (h : List Note) : Prop where
  stages : ∀ i, i < features.length → Client.stagesOf i (clientActs 1 h) = stages
  registrations : ∀ i (hi : i < features.length), Client.registrationsOf i (clientActs 1 h) =
    (heardBy 1 h).flatMap features[i].requestedBy

/-- The first client is held. It has not ended, and while it is being opened its introduction is not over. -/
structure Holds (features : List Feature) (h : List Note) (s : Controller) (c : Client) : Prop where
  attempts : s.attempts = 1
  held : s.phase.client? = some c
  same : c.features = features
  led : Led features s.phase.stages h
  stays : .hungUp ∉ clientActs 1 h
  opening : ∀ target d next, s.phase = .opening target d next →
    .wrote .introduced ∉ clientActs 1 h

/-- The first client is held no more, and no later client is the first. -/
def IsPast (s : Controller) : Prop :=
  s.attempts = 1 ∧ s.phase = .idle ∨ 1 < s.attempts

/-- The first client has ended, and with its end all is over. -/
structure LedToEnd (features : List Feature) (h : List Note) (stages : List Feature.Stage)
    (before : List Client.Act) : Prop where
  led : Led features stages h
  course : stages <+: [.contribute, .setUp, .dispose]
  acts : clientActs 1 h = before ++ [.hungUp]
  stays : .hungUp ∉ before
  disposed : .wrote .introduced ∈ before → stages = [.contribute, .setUp, .dispose]

/-- The first client is held, or it is gone for good. -/
inductive Leads (features : List Feature) (h : List Note) (s : Controller) : Prop where
  | held {c : Client} (holds : Holds features h s c)
  | gone {stages : List Feature.Stage} {before : List Client.Act} (hpast : s.IsPast)
      (ended : LedToEnd features h stages before)

theorem holds_opens (target : Target) (options : Client.Options) (features : List Feature) :
    Holds features [] (opens target options features) { options, features } where
  attempts := rfl
  held := rfl
  same := rfl
  led := ⟨fun _ _ => rfl, fun _ _ => rfl⟩
  stays := List.not_mem_nil
  opening _ _ _ _ := List.not_mem_nil

theorem Led.acts {features : List Feature} {stages stages' : List Feature.Stage} {h : List Note}
    (hled : Led features stages h) {acts : List Client.Act}
    (hacts : ∀ i, i < features.length → stages' = stages ++ Client.stagesOf i acts ∧
      Client.registrationsOf i acts = []) :
    Led features stages' (h ++ clientNotes 1 acts) where
  stages i hi := by simp [hled.stages i hi, (hacts i hi).1]
  registrations i hi := by simp [hled.registrations i hi, (hacts i hi).2]

theorem Led.uncalled {features : List Feature} {stages : List Feature.Stage} {h : List Note}
    (hled : Led features stages h) {acts : List Client.Act}
    (hacts : ∀ i, Client.callsTo i acts = []) : Led features stages (h ++ clientNotes 1 acts) :=
  hled.acts fun i _ =>
    ⟨by simp [Client.stagesOf_of_callsTo (hacts i)], Client.registrationsOf_of_callsTo (hacts i)⟩

theorem Led.append {features : List Feature} {stages : List Feature.Stage} {h new : List Note}
    (hled : Led features stages h) (hnew : Silent 1 new) : Led features stages (h ++ new) where
  stages i hi := by simp [hnew.acts, hled.stages i hi]
  registrations i hi := by simp [hnew.acts, hnew.heard, hled.registrations i hi]

theorem Led.served {features : List Feature} {stages : List Feature.Stage} {h : List Note}
    (hled : Led features stages h) {c d : Client} (hfeatures : c.features = features)
    {frames : List Json} {acts : List Client.Act} (hserved : c.Served frames acts d) :
    Led features stages (h ++ (frames.map (.heard 1) ++ clientNotes 1 acts)) := by
  subst hfeatures
  exact {
    stages := fun i hi => by simp [hled.stages i hi, hserved.stagesOf hi]
    registrations := fun i hi => by simp [hled.registrations i hi, hserved.registrationsOf hi] }

theorem Holds.silent {features : List Feature} {h new : List Note} {s t : Controller} {c : Client}
    (hs : Holds features h s c) (hattempts : t.attempts = s.attempts) (hphase : t.phase = s.phase)
    (hnew : Silent 1 new) : Holds features (h ++ new) t c where
  attempts := hattempts.trans hs.attempts
  held := hphase ▸ hs.held
  same := hs.same
  led := hphase ▸ hs.led.append hnew
  stays := by simpa [hnew.acts] using hs.stays
  opening target d next ht := by
    simpa [hnew.acts] using hs.opening target d next (hphase ▸ ht)

theorem Holds.acts {features : List Feature} {h : List Note} {s t : Controller} {c d : Client}
    (hs : Holds features h s c) {acts : List Client.Act} (hattempts : t.attempts = s.attempts)
    (hheld : t.phase.client? = some d) (hfeatures : d.features = c.features)
    (hcalls : ∀ i, i < c.features.length → t.phase.stages = s.phase.stages ++ Client.stagesOf i acts ∧
      Client.registrationsOf i acts = [])
    (hstays : .hungUp ∉ acts)
    (hopening : ∀ target d next, t.phase = .opening target d next →
      .wrote .introduced ∉ clientActs 1 h ∧ .wrote .introduced ∉ acts) :
    Holds features (h ++ clientNotes s.attempts acts) t d := by
  rw [hs.attempts]
  exact {
    attempts := hattempts.trans hs.attempts
    held := hheld
    same := hfeatures.trans hs.same
    led := hs.led.acts (hs.same ▸ hcalls)
    stays := by simp [hs.stays, hstays]
    opening := fun target d next ht => by simp [hopening target d next ht] }

theorem Holds.uncalled {features : List Feature} {h : List Note} {s t : Controller} {c d : Client}
    (hs : Holds features h s c) {acts : List Client.Act} (hattempts : t.attempts = s.attempts)
    (hheld : t.phase.client? = some d) (hfeatures : d.features = c.features)
    (hstages : t.phase.stages = s.phase.stages) (hcalls : ∀ i, Client.callsTo i acts = [])
    (hstays : .hungUp ∉ acts) (hopened : ∀ target d next, t.phase ≠ .opening target d next) :
    Holds features (h ++ clientNotes s.attempts acts) t d := by
  refine hs.acts hattempts hheld hfeatures ?_ hstays fun target d next ht =>
    absurd ht (hopened target d next)
  intro i _
  rw [hstages, Client.stagesOf_of_callsTo (hcalls i), List.append_nil]
  exact ⟨rfl, Client.registrationsOf_of_callsTo (hcalls i)⟩

theorem Phase.stages_setClient (p : Phase) (c : Client) : (p.setClient c).stages = p.stages := by
  cases p <;> rfl

theorem Phase.opening_of_setClient {p : Phase} {c d : Client} {target : Target}
    {next : Client.Handshake} (hp : p.setClient c = .opening target d next) :
    ∃ c, p = .opening target c next := by
  cases p <;> cases hp
  exact ⟨_, rfl⟩

theorem Holds.served {features : List Feature} {h : List Note} {s : Controller} {c d : Client}
    (hs : Holds features h s c) {frames : List Json} {acts : List Client.Act}
    (hserved : c.Served frames acts d) :
    Holds features (h ++ (frames.map (.heard s.attempts) ++ clientNotes s.attempts acts))
      { s with phase := s.phase.setClient d } d := by
  have hhungUp := Client.hungUp_not_mem_of_stays fun act hact => (hserved.aside act hact).2
  have hintroduced : .wrote .introduced ∉ acts := by
    intro hmem
    have hsaid := Client.introduced_mem_said hmem
    rw [Client.said_of_aside hserved.aside] at hsaid
    cases hsaid
  have hattempts := hs.attempts
  refine ⟨hattempts, Phase.client?_setClient hs.held d, hserved.kept.features.trans hs.same, ?_,
    by simp [hattempts, hs.stays, hhungUp], ?_⟩
  · rw [Phase.stages_setClient, hattempts]
    exact hs.led.served hs.same hserved
  · intro target _ next ht
    obtain ⟨e, he⟩ := Phase.opening_of_setClient ht
    simp [hattempts, hs.opening target e next he, hintroduced]

theorem LedToEnd.silent {features : List Feature} {h new : List Note} {stages : List Feature.Stage}
    {before : List Client.Act} (hended : LedToEnd features h stages before) (hnew : Silent 1 new) :
    LedToEnd features (h ++ new) stages before :=
  { hended with
    led := hended.led.append hnew
    acts := by simp [hended.acts, hnew.acts] }

theorem LedToEnd.nothing_after {features : List Feature} {h : List Note} {stages : List Feature.Stage}
    {before first after : List Client.Act} (hended : LedToEnd features h stages before)
    (hacts : clientActs 1 h = first ++ .hungUp :: after) : after = [] := by
  rcases List.eq_nil_or_concat after with rfl | ⟨rest, last, rfl⟩
  · rfl
  · have hsplit : before ++ [.hungUp] = (first ++ .hungUp :: rest) ++ [last] := by
      simpa using hended.acts.symm.trans hacts
    have hbefore : before = first ++ .hungUp :: rest := (List.append_inj' hsplit rfl).1
    exact absurd (hbefore ▸ List.mem_append_right _ List.mem_cons_self) hended.stays

theorem Holds.hangUp {features : List Feature} {h : List Note} {s : Controller} {c : Client}
    (hs : Holds features h s c) (hstages : s.phase.stages <+: [.contribute, .setUp, .dispose])
    (hdisposed : (∀ target d next, s.phase ≠ .opening target d next) →
      s.phase.stages = [.contribute, .setUp, .dispose]) :
    LedToEnd features (h ++ clientNotes s.attempts [.hungUp]) s.phase.stages (clientActs 1 h) := by
  rw [hs.attempts]
  exact ⟨hs.led.uncalled fun _ => rfl, hstages, by simp, hs.stays, fun hintroduced =>
    hdisposed fun target d next hphase => hs.opening target d next hphase hintroduced⟩

theorem Holds.hangUp_of_closing {features : List Feature} {h : List Note} {s : Controller}
    {c d : Client} {sequel : Sequel} (hs : Holds features h s c)
    (hphase : s.phase = .closing d .hangUp sequel) :
    LedToEnd features (h ++ clientNotes s.attempts [.hungUp]) [.contribute, .setUp, .dispose]
      (clientActs 1 h) := by
  have hstages : s.phase.stages = [.contribute, .setUp, .dispose] := by rw [hphase]; rfl
  rw [← hstages]
  exact hs.hangUp (hstages ▸ List.prefix_rfl) fun _ => hstages

theorem Begins.isPast {s t : Controller} {new : List Note} (hbegins : s.Begins new t)
    (hattempts : s.attempts = 1) : t.IsPast := by
  cases hbegins with
  | disabled => exact .inl ⟨hattempts, rfl⟩
  | attempted => exact .inr (by simp [hattempts])

/-- Once the first client is gone, a move tells of it no more. -/
theorem Move.of_isPast {s t : Controller} {new : List Note} (move : s.Move new t)
    (hpast : s.IsPast) : Silent 1 new ∧ t.IsPast := by
  rcases hpast with ⟨hattempts, hidle⟩ | hlater
  · cases move with
    | dismissed prompt =>
        exact ⟨silent_did 1 _ rfl, .inl ⟨by simp [hattempts], by simp [hidle]⟩⟩
    | began _ hbegins => exact ⟨hbegins.silent 1, hbegins.isPast hattempts⟩
    | served hheld =>
        rw [hidle] at hheld
        cases hheld
    | _ => simp_all
  · exact ⟨move.silent (Nat.ne_of_lt hlater), .inr (Nat.lt_of_lt_of_le hlater move.attempts_le)⟩

section Turns

variable {features : List Feature} {h : List Note} {s : Controller} {c d : Client}
  (hs : Holds features h s c)

include hs

theorem Holds.eq_of_phase {p : Phase} (hphase : s.phase = p) (hd : p.client? = some d) : d = c :=
  Option.some.inj (hd.symm.trans (hphase ▸ hs.held))

/-- The phase changes, and nothing is noted. -/
theorem Holds.turns {p : Phase} (hheld : p.client? = some d) (hfeatures : d.features = c.features)
    (hstages : p.stages = s.phase.stages) (hopened : ∀ target e next, p ≠ .opening target e next) :
    Holds features h { s with phase := p } d := by
  have hturned : Holds features (h ++ clientNotes s.attempts []) { s with phase := p } d :=
    hs.uncalled rfl hheld hfeatures hstages (fun _ => rfl) List.not_mem_nil hopened
  simpa [clientNotes] using hturned

theorem Holds.shook {target : Target} {next next' : Client.Handshake} {acts : List Client.Act}
    (hphase : s.phase = .opening target c next) (hstep : next.step c = (.next d next', acts)) :
    Holds features (h ++ clientNotes s.attempts acts) { s with phase := .opening target d next' } d := by
  obtain ⟨hhungUp, hintroduced⟩ := Client.Handshake.goesOn_step hstep
  refine hs.acts rfl rfl (Client.Handshake.unchanged_step hstep).1 ?_ hhungUp ?_
  · intro i hi
    rw [hphase]
    exact Client.Handshake.callsTo_step hstep hi
  · exact fun _ _ _ _ => ⟨hs.opening _ _ _ hphase, hintroduced⟩

theorem Holds.started {target : Target} {next : Client.Handshake} {acts : List Client.Act}
    (hphase : s.phase = .opening target c next) (hstep : next.step c = (.done d, acts)) :
    Holds features (h ++ clientNotes s.attempts acts) { s with phase := .active target d } d := by
  obtain ⟨rfl, rfl, rfl⟩ := handshake_done hstep
  exact hs.uncalled rfl rfl rfl (by simp [hphase, Phase.stages, Client.Handshake.stages]) (fun _ => rfl)
    (by simp) (by simp)

theorem Holds.parting {next next' : Client.Farewell} {sequel : Sequel} {acts : List Client.Act}
    (hphase : s.phase = .closing c next sequel) (hstep : next.step c = (.next d next', acts)) :
    Holds features (h ++ clientNotes s.attempts acts) { s with phase := .closing d next' sequel } d := by
  refine hs.acts rfl rfl (Client.Farewell.features_step hstep) ?_ (Client.Farewell.goesOn_step hstep)
    (by simp)
  intro i hi
  rw [hphase]
  exact Client.Farewell.callsTo_step hstep hi

theorem Holds.told {target : Target} (event : Document.Event) (hphase : s.phase = .active target c) :
    Holds features (h ++ .reported s.attempts event ::
        clientNotes s.attempts (c.report event.url.text event.language event.deed).2)
      { s with phase := .active target (c.report event.url.text event.language event.deed).1 }
      (c.report event.url.text event.language event.deed).1 := by
  have hnoted : Holds features (h ++ [.reported s.attempts event]) s c :=
    hs.silent rfl rfl ⟨rfl, rfl, by simp⟩
  have hreport := c.isReporting_report event.url.text event.language event.deed
  rw [List.append_cons]
  exact hnoted.uncalled rfl rfl rfl (by simp [hphase, Phase.stages]) (fun i => c.callsTo_report i _ _ _)
    (Client.hungUp_not_mem_of_stays fun act hact => (hreport act hact).1) (by simp)

/-- The farewell has come to its end, and what comes behind it tells of the first client no more. -/
theorem Leads.parted {notes : List Note} {t : Controller} {sequel : Sequel}
    (hphase : s.phase = .closing d .hangUp sequel) (hpast : t.IsPast) (hnotes : Silent 1 notes) :
    Leads features (h ++ (clientNotes s.attempts [.hungUp] ++ notes)) t := by
  rw [← List.append_assoc]
  exact .gone hpast ((hs.hangUp_of_closing hphase).silent hnotes)

end Turns

theorem Leads.move_held {features : List Feature} {h new : List Note} {s t : Controller}
    {c : Client} (hs : Holds features h s c) (move : s.Move new t) : Leads features (h ++ new) t := by
  cases move with
  | refused => exact .held (hs.silent rfl rfl (silent_did 1 _ rfl))
  | dismissed prompt =>
      exact .held (hs.silent (s.attempts_dismiss prompt) (s.phase_dismiss prompt) (silent_did 1 _ rfl))
  | passed => exact .held (hs.silent rfl rfl ⟨rfl, rfl, by simp⟩)
  | served hheld hserved =>
      obtain rfl := Option.some.inj (hs.held.symm.trans hheld)
      exact .held (hs.served hserved)
  | shook hphase hstep =>
      obtain rfl := hs.eq_of_phase hphase rfl
      exact .held (hs.shook hphase hstep)
  | started hphase hstep =>
      obtain rfl := hs.eq_of_phase hphase rfl
      rw [← List.append_assoc]
      exact .held ((hs.started hphase hstep).silent rfl rfl (silent_did 1 _ rfl))
  | abandoned error hphase =>
      rw [← List.append_assoc]
      refine .gone (.inl ⟨hs.attempts, rfl⟩) (LedToEnd.silent (hs.hangUp ?_ ?_) (silent_did 1 _ rfl))
      · rw [hphase]
        exact Client.Handshake.stages_prefix _
      · exact fun hopened => absurd hphase (hopened _ _ _)
  | closed sequel hphase =>
      obtain rfl := hs.eq_of_phase hphase rfl
      rw [List.append_nil]
      exact .held (hs.turns rfl rfl (by simp [hphase, Phase.stages, Client.Farewell.stages]) (by simp))
  | parting hphase hstep =>
      obtain rfl := hs.eq_of_phase hphase rfl
      exact .held (hs.parting hphase hstep)
  | gaveUp hphase hexpire =>
      obtain rfl := hs.eq_of_phase hphase rfl
      obtain ⟨hfeatures, hstages⟩ := Client.Farewell.expire_eq hexpire
      rw [List.append_nil]
      exact .held (hs.turns rfl hfeatures (by simp [hphase, Phase.stages, hstages]) (by simp))
  | parted hphase => exact .gone (.inl ⟨hs.attempts, rfl⟩) (hs.hangUp_of_closing hphase)
  | partedOffering hphase => exact .parted hs hphase (.inl ⟨hs.attempts, rfl⟩) (silent_did 1 _ rfl)
  | partedBeginning hphase hbegins =>
      exact .parted hs hphase (hbegins.isPast hs.attempts) (hbegins.silent 1)
  | told event hphase =>
      obtain rfl := hs.eq_of_phase hphase rfl
      exact .held (hs.told event hphase)
  | @toldFiles target d changes hphase =>
      obtain rfl := hs.eq_of_phase hphase rfl
      have hreport : ∀ act ∈ d.reportChanges changes, act.IsReporting := d.isReporting_write rfl
      exact .held (hs.uncalled rfl hs.held rfl rfl (fun i => Client.callsTo_write i d _)
        (Client.hungUp_not_mem_of_stays fun act hact => (hreport act hact).1) (by simp [hphase]))
  | began hphase | connected hphase | unreachable hphase | unlaunched _ hphase =>
      have hheld := hs.held
      rw [hphase] at hheld
      cases hheld

theorem Leads.move {features : List Feature} {h new : List Note} {s t : Controller}
    (hs : Leads features h s) (move : s.Move new t) : Leads features (h ++ new) t := by
  cases hs with
  | held holds => exact .move_held holds move
  | gone hpast hended =>
      obtain ⟨hnew, hpast'⟩ := move.of_isPast hpast
      exact .gone hpast' (hended.silent hnew)

theorem leads_history (target : Target) (options : Client.Options) (features : List Feature)
    (inputs : List (Editor × Input)) :
    Leads features (history (opens target options features) inputs)
      (run (opens target options features) inputs).1 := by
  have hall (h : List Note) (s : Controller) (moves : Moves (opens target options features) h s) :
      Leads features h s := by
    induction moves with
    | none => exact .held (holds_opens target options features)
    | snoc _ move ih => exact ih.move move
  exact hall _ _ (moves_history _ inputs)

theorem Phase.stages_prefix (p : Phase) : p.stages <+: [.contribute, .setUp, .dispose] := by
  cases p with
  | opening _ _ next => exact next.stages_prefix
  | closing _ next _ => exact next.stages_prefix
  | _ => simp [Phase.stages]

/-- In every run that opens a client, each of its features is called to contribute, to set itself up and to
dispose of itself in this order, and at most once; it is called to register and to unregister what the frames
that the client takes ask of it, in their order, whenever they are taken. With the end of the client all is
over, and a feature of a client that was started has then been disposed of. -/
theorem features_led_in_order (target : Target) (options : Client.Options) (features : List Feature)
    (inputs : List (Editor × Input)) (i : Fin features.length) :
    let h := history (opens target options features) inputs
    Client.stagesOf i (clientActs 1 h) <+: [.contribute, .setUp, .dispose] ∧
      Client.registrationsOf i (clientActs 1 h) = (heardBy 1 h).flatMap features[i].requestedBy ∧
      (∀ before after, clientActs 1 h = before ++ .hungUp :: after → after = []) ∧
      (.wrote .introduced ∈ clientActs 1 h → .hungUp ∈ clientActs 1 h →
        Client.stagesOf i (clientActs 1 h) = [.contribute, .setUp, .dispose]) := by
  intro h
  cases leads_history target options features inputs with
  | held holds =>
      refine ⟨?_, holds.led.registrations i i.isLt, ?_, fun _ hended => absurd hended holds.stays⟩
      · rw [holds.led.stages i i.isLt]
        exact Phase.stages_prefix _
      · intro before after hacts
        exact absurd (hacts ▸ List.mem_append_right _ List.mem_cons_self) holds.stays
  | @gone stages before hpast ended =>
      refine ⟨?_, ended.led.registrations i i.isLt, ?_, fun hintroduced _ => ?_⟩
      · rw [ended.led.stages i i.isLt]
        exact ended.course
      · exact fun first after hacts => ended.nothing_after hacts
      · rw [ended.led.stages i i.isLt]
        refine ended.disposed ?_
        have hmem : .wrote .introduced ∈ before ++ [.hungUp] := ended.acts ▸ hintroduced
        simpa using hmem

def opensOne : Controller :=
  opens (.port ⟨5007⟩) {} [{ registrationMethod := some "custom/feature" }]

/-- A run in which the server asks a feature to register before it is set up and after it was disposed of. -/
def asksTooSoon : List (Editor × Input) :=
  let ask : Input := .arrive 1 (.frame (.ofFields [("id", .nat 7),
    ("method", .string "client/registerCapability"),
    ("params", .ofFields [("registrations", .array [.ofFields [("id", .string "r"),
      ("method", .string "custom/feature")]])])]))
  let answer (id : Nat) : Input := .arrive 1 (.frame (.ofFields [("id", .nat id), ("result", .null)]))
  [.proceed, ask, .proceed, .proceed, answer 1, .proceed, .proceed, .proceed, .perform .stop, .proceed,
    ask, .proceed, .proceed, .proceed, .proceed, answer 2, .proceed, .proceed, .proceed].map
      (⟨{}, ⟨[]⟩, none, 0⟩, ·)

/-- A run in which the server takes nothing more once the features are set up. -/
def losesEarly : List (Editor × Input) :=
  let answer : Input := .arrive 1 (.frame (.ofFields [("id", .nat 1), ("result", .null)]))
  [.proceed, .proceed, .proceed, answer, .proceed, .proceed, .jam 1, .proceed].map
    (⟨{}, ⟨[]⟩, none, 0⟩, ·)

theorem features_led_in_order_stopped :
    .wrote .introduced ∈ clientActs 1 (history opensOne asksTooSoon) ∧
      .hungUp ∈ clientActs 1 (history opensOne asksTooSoon) ∧
      Client.stagesOf 0 (clientActs 1 (history opensOne asksTooSoon)) =
        [.contribute, .setUp, .dispose] := by
  have hfifth : (clientActs 1 (history opensOne asksTooSoon))[5]? = some (.wrote .introduced) := rfl
  have hlast : (clientActs 1 (history opensOne asksTooSoon)).getLast? = some .hungUp := rfl
  have hled := features_led_in_order (.port ⟨5007⟩) {}
    [{ registrationMethod := some "custom/feature" }] asksTooSoon 0
  have hintroduced := List.mem_of_getElem? hfifth
  have hended := List.mem_of_getLast? hlast
  exact ⟨hintroduced, hended, hled.2.2.2 hintroduced hended⟩

theorem asked_too_soon_and_undisposed :
    ∃ selector registration,
      Client.callsTo 0 (clientActs 1 (history opensOne asksTooSoon)) =
        [.contribute, .register registration, .setUp .null selector, .dispose, .register registration] ∧
      ¬ Feature.CallsInOrder (Client.callsTo 0 (clientActs 1 (history opensOne asksTooSoon))) ∧
      .hungUp ∈ clientActs 1 (history opensOne losesEarly) ∧
      Client.stagesOf 0 (clientActs 1 (history opensOne losesEarly)) = [.contribute, .setUp] := by
  have hcalls : Client.callsTo 0 (clientActs 1 (history opensOne asksTooSoon)) =
      [.contribute, .register _, .setUp .null _, .dispose, .register _] := rfl
  refine ⟨_, _, hcalls, ?_, ?_, rfl⟩
  · rw [hcalls]
    rintro ⟨capabilities, selector, registrations, -, rest, hrest⟩
    simp at hrest
  · have hlast : (clientActs 1 (history opensOne losesEarly)).getLast? = some .hungUp := rfl
    exact List.mem_of_getLast? hlast

end Controller

end ServerLink
