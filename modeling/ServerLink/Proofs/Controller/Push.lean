import ServerLink.Proofs.Client.Push
import ServerLink.Proofs.Controller.Feature
import ServerLink.Proofs.Controller.Reply

/-!
Pushes of pages over whole runs. The features of a client are subscribed from the moment they are set up until
the farewell unsubscribes them. What a client is pushed in that time are the pages that it opens, one for one.
-/

namespace ServerLink

namespace Controller

/-- Whether the features of the client that is held are subscribed: they have been set up, and the farewell has
not unsubscribed them. -/
def Phase.isSubscribed : Phase → Bool
  | .opening _ _ .conclude => true
  | .active .. => true
  | .closing _ .dispose _ => true
  | .closing _ .unsubscribe _ => true
  | _ => false

/-- The markups that the client of an attempt is pushed while its features are subscribed. -/
def pushes (s : Controller) (attempt : Nat) : List (Editor × Input) → List String
  | [] => []
  | (e, i) :: inputs =>
      (if s.phase.isSubscribed then (heardBy attempt (s.noted i)).filterMap Rpc.markup? else []) ++
        (s.step e i).1.pushes attempt inputs

def pagesOf (attempt : Nat) (h : List Note) : List Panel.Page :=
  Client.pagesIn (clientActs attempt h)

@[simp] theorem pagesOf_nil (k : Nat) : pagesOf k [] = [] := rfl

@[simp] theorem pagesOf_append (k : Nat) (h new : List Note) :
    pagesOf k (h ++ new) = pagesOf k h ++ pagesOf k new := by
  simp [pagesOf]

theorem heardBy_notes (s : Controller) (e : Editor) (i : Input) (k : Nat) :
    heardBy k (s.notes e i) = heardBy k (s.noted i) := by
  simp [notes, heardBy, List.filterMap_map]

/-- A client that shows pages, with its features subscribed or not. -/
structure Attends (c : Client) (subscribed : Bool) : Prop where
  carries : Feature.ShowsPages c.features
  subscriptions : c.subscriptions = if subscribed then .ofFeatures c.features else {}

/-- The client that is held shows pages, and its features are subscribed exactly when the phase says so. -/
def Phase.Attends (p : Phase) : Prop :=
  ∀ c, p.client? = some c → Controller.Attends c p.isSubscribed

theorem Phase.attends_of_none {p : Phase} (h : p.client? = none) : p.Attends := by
  intro c hc
  rw [h] at hc
  cases hc

theorem Attends.same {c d : Client} {subscribed : Bool} (hc : Attends c subscribed)
    (hfeatures : d.features = c.features) (hsubscriptions : d.subscriptions = c.subscriptions) :
    Attends d subscribed :=
  ⟨hfeatures ▸ hc.carries, by rw [hsubscriptions, hfeatures, hc.subscriptions]⟩

theorem Attends.showPages {c : Client} (hc : Attends c true) : c.subscriptions.ShowPages := by
  rw [hc.subscriptions]
  exact hc.carries.subscribed

theorem attends_opens (target : Target) (options : Client.Options) {features : List Feature}
    (hfeatures : Feature.ShowsPages features) : (opens target options features).phase.Attends := by
  rintro c ⟨⟩
  exact ⟨hfeatures, rfl⟩

theorem Phase.isSubscribed_setClient (p : Phase) (c : Client) :
    (p.setClient c).isSubscribed = p.isSubscribed := by
  cases p with
  | opening target d next => cases next <;> rfl
  | closing d next sequel => cases next <;> rfl
  | _ => rfl

theorem Phase.Attends.shook {target : Target} {c d : Client} {next next' : Client.Handshake}
    {acts : List Client.Act} (hp : Phase.Attends (.opening target c next))
    (hstep : next.step c = (.next d next', acts)) : Phase.Attends (.opening target d next') := by
  have hc := hp c rfl
  rintro _ ⟨⟩
  cases next <;> simp only [Client.Handshake.step] at hstep
  case enter =>
    cases hstep
    exact hc.same rfl rfl
  case settle =>
    -- Only here the features are subscribed.
    split at hstep <;> cases hstep
    exact ⟨hc.carries, rfl⟩
  case conclude => split at hstep <;> cases hstep
  all_goals
    split at hstep <;> cases hstep
    exact hc.same rfl rfl

theorem Phase.Attends.parting {c d : Client} {next next' : Client.Farewell} {sequel : Sequel}
    {acts : List Client.Act} (hp : Phase.Attends (.closing c next sequel))
    (hstep : next.step c = (.next d next', acts)) : Phase.Attends (.closing d next' sequel) := by
  have hc := hp c rfl
  rintro _ ⟨⟩
  cases next <;> simp only [Client.Farewell.step] at hstep
  case unsubscribe =>
    cases hstep
    exact ⟨hc.carries, rfl⟩
  case check =>
    cases hstep
    split <;> exact hc
  case write => split at hstep <;> cases hstep <;> exact hc.same rfl rfl
  case await =>
    split at hstep <;> cases hstep
    · split <;> exact hc
    · exact hc
  case hangUp => cases hstep
  all_goals
    cases hstep
    exact hc.same rfl rfl

theorem Phase.Attends.gaveUp {c d : Client} {next next' : Client.Farewell} {sequel : Sequel}
    (hp : Phase.Attends (.closing c next sequel)) (hexpire : next.expire c = some (d, next')) :
    Phase.Attends (.closing d next' sequel) := by
  rintro _ ⟨⟩
  unfold Client.Farewell.expire at hexpire
  split at hexpire
  · split at hexpire <;> cases hexpire
    exact (hp c rfl).same rfl rfl
  · cases hexpire

theorem served_subscriptions {c d : Client} {frames : List Json} {acts : List Client.Act}
    (hserved : c.Served frames acts d) : d.subscriptions = c.subscriptions := by
  cases hserved with
  | took frame =>
      unfold Client.dispatch
      split <;> rfl
  | wound =>
      unfold Client.wind
      split <;> rfl
  | _ => rfl

theorem Phase.Attends.served {p : Phase} {c d : Client} {frames : List Json} {acts : List Client.Act}
    (hp : p.Attends) (hheld : p.client? = some c) (hserved : c.Served frames acts d) :
    (p.setClient d).Attends := by
  intro e he
  rw [Phase.client?_setClient hheld] at he
  cases he
  rw [Phase.isSubscribed_setClient]
  exact (hp c hheld).same hserved.kept.features (served_subscriptions hserved)

theorem Move.attends {s t : Controller} {new : List Note} (move : s.Move new t)
    (hs : s.phase.Attends) : t.phase.Attends := by
  cases move with
  | refused | passed | toldFiles => exact hs
  | dismissed prompt => rwa [phase_dismiss]
  | began _ hbegins => exact Phase.attends_of_none hbegins.client?
  | partedBeginning _ hbegins => exact Phase.attends_of_none hbegins.client?
  | connected =>
      rintro _ ⟨⟩
      exact ⟨Feature.showsPages_pages, rfl⟩
  | unreachable | unlaunched | abandoned | parted | partedOffering => exact Phase.attends_of_none rfl
  | shook hphase hstep => exact Phase.Attends.shook (hphase ▸ hs) hstep
  | started hphase hstep =>
      obtain ⟨rfl, rfl, -⟩ := handshake_done hstep
      rw [hphase] at hs
      rintro _ ⟨⟩
      exact hs _ rfl
  | closed sequel hphase =>
      rw [hphase] at hs
      rintro _ ⟨⟩
      exact hs _ rfl
  | parting hphase hstep => exact Phase.Attends.parting (hphase ▸ hs) hstep
  | gaveUp hphase hexpire => exact Phase.Attends.gaveUp (hphase ▸ hs) hexpire
  | served hheld hserved => exact hs.served hheld hserved
  | told event hphase =>
      rw [hphase] at hs
      rintro _ ⟨⟩
      exact (hs _ rfl).same rfl rfl

/-- Notes that tell neither of a value that was taken nor of a page. -/
structure Still (new : List Note) : Prop where
  heard : ∀ k, heardBy k new = []
  pages : ∀ k, pagesOf k new = []

theorem Still.append {h new : List Note} (hh : Still h) (hnew : Still new) : Still (h ++ new) :=
  ⟨fun k => by simp [hh.heard, hnew.heard], fun k => by simp [hh.pages, hnew.pages]⟩

theorem still_of_silent {new : List Note} (hnew : ∀ k, Silent k new) : Still new :=
  ⟨fun k => (hnew k).heard, fun k => by rw [pagesOf, (hnew k).acts]; rfl⟩

theorem still_did (act : Act) (hact : ∀ k, (Note.did act).clientAct? k = none) : Still [.did act] :=
  still_of_silent fun k => silent_did k act (hact k)

theorem still_clientNotes (attempt : Nat) {acts : List Client.Act} (hacts : Client.pagesIn acts = []) :
    Still (clientNotes attempt acts) := by
  refine ⟨fun k => heardBy_clientNotes k attempt acts, fun k => ?_⟩
  by_cases hk : k = attempt
  · subst hk
    simpa [pagesOf] using hacts
  · rw [pagesOf, (silent_clientNotes hk acts).acts]
    rfl

theorem Move.still_or_served {s t : Controller} {new : List Note} (move : s.Move new t) :
    Still new ∨ ∃ c d frames acts, s.phase.client? = some c ∧ c.Served frames acts d ∧
      new = frames.map (.heard s.attempts) ++ clientNotes s.attempts acts := by
  cases move with
  | served hheld hserved => exact .inr ⟨_, _, _, _, hheld, hserved, rfl⟩
  | refused | dismissed | unlaunched => exact .inl (still_did _ fun _ => rfl)
  | began _ hbegins => exact .inl (still_of_silent hbegins.silent)
  | connected | passed | closed | gaveUp => exact .inl ⟨fun _ => rfl, fun _ => rfl⟩
  | unreachable => exact .inl ((still_did _ fun _ => rfl).append (still_did _ fun _ => rfl))
  | shook _ hstep => exact .inl (still_clientNotes _ (Client.Handshake.pagesIn_step hstep))
  | started _ hstep =>
      obtain ⟨rfl, rfl, rfl⟩ := handshake_done hstep
      exact .inl ((still_clientNotes _ rfl).append (still_did _ fun _ => rfl))
  | abandoned => exact .inl ((still_clientNotes _ rfl).append (still_did _ fun _ => rfl))
  | parting _ hstep => exact .inl (still_clientNotes _ (Client.Farewell.pagesIn_step hstep))
  | parted => exact .inl (still_clientNotes _ rfl)
  | partedOffering => exact .inl ((still_clientNotes _ rfl).append (still_did _ fun _ => rfl))
  | partedBeginning _ hbegins =>
      exact .inl ((still_clientNotes _ rfl).append (still_of_silent hbegins.silent))
  | told event hphase =>
      have hreported : Still [.reported s.attempts event] := ⟨fun _ => rfl, fun _ => rfl⟩
      exact .inl (hreported.append (still_clientNotes _ (Client.pagesIn_report ..)))
  | toldFiles => exact .inl (still_clientNotes _ (Client.pagesIn_write ..))

theorem Attends.pages_served {c d : Client} {subscribed : Bool} {frames : List Json}
    {acts : List Client.Act} (hc : Attends c subscribed) (hserved : c.Served frames acts d) :
    Client.pagesIn acts =
      (if subscribed then frames.filterMap Rpc.markup? else []).map Panel.Page.ofHtml := by
  cases hserved with
  | took frame =>
      cases subscribed with
      | true =>
          rw [Client.pagesIn_dispatch hc.showPages]
          cases hmarkup : Rpc.markup? frame <;> simp [hmarkup]
      | false =>
          rw [Client.pagesIn_dispatch_of_none hc.subscriptions]
          rfl
  | _ => cases subscribed <;> rfl

theorem Move.pages {s t : Controller} {new : List Note} (move : s.Move new t) (hs : s.phase.Attends)
    (k : Nat) : pagesOf k new =
      (if s.phase.isSubscribed then (heardBy k new).filterMap Rpc.markup? else []).map
        Panel.Page.ofHtml := by
  rcases move.still_or_served with hstill | ⟨c, d, frames, acts, hheld, hserved, rfl⟩
  · rw [hstill.pages, hstill.heard]
    split <;> rfl
  · by_cases hk : k = s.attempts
    · subst hk
      simpa [pagesOf] using (hs c hheld).pages_served hserved
    · have hquiet := (silent_heard hk frames).append (silent_clientNotes hk acts)
      rw [pagesOf, hquiet.acts, hquiet.heard]
      split <;> rfl

theorem attends_step (e : Editor) {s : Controller} (i : Input) (hs : s.phase.Attends) :
    (s.step e i).1.phase.Attends :=
  (moves_step e s i).keeps (fun hs move => move.attends hs) hs

theorem Moved.pages {s t : Controller} {new : List Note} (moved : s.Moved new t) (hs : s.phase.Attends)
    (k : Nat) : pagesOf k new =
      (if s.phase.isSubscribed then (heardBy k new).filterMap Rpc.markup? else []).map
        Panel.Page.ofHtml := by
  cases moved with
  | not => split <;> rfl
  | once move => exact move.pages hs k

theorem pages_history {s : Controller} (hs : s.phase.Attends) (k : Nat)
    (inputs : List (Editor × Input)) :
    pagesOf k (s.history inputs) = (s.pushes k inputs).map Panel.Page.ofHtml := by
  induction inputs generalizing s with
  | nil => rfl
  | cons input inputs ih =>
      obtain ⟨e, i⟩ := input
      rw [history, pagesOf_append, (moved_step e s i).pages hs, ih (attends_step e i hs), pushes,
        List.map_append, heardBy_notes]

theorem arrive_of_hears {s : Controller} {k : Nat} (hhears : s.hears k = true) (e : Editor)
    (frame : Json) : ∃ c, s.phase.client? = some c ∧
      (s.step e (.arrive k (.frame frame))).2 = s.ofClient (c.dispatch frame).2 := by
  obtain ⟨hattempt, hheld⟩ := Bool.and_eq_true_iff.mp hhears
  obtain rfl : k = s.attempts := by simpa using hattempt
  obtain ⟨c, hc, hrunning⟩ := Option.any_eq_true _ _ |>.mp hheld
  have hinflow : c.inflow = .running := by simpa using hrunning
  refine ⟨c, hc, ?_⟩
  simp [step, onClient_of_held hc, Client.arrive, hinflow]

/-- In every run of a client among whose features is the one that shows pages, with none behind it that asks
for its notification, and of the clients that are started after it: the pages that a client opens are those
that it is pushed while its features are subscribed, one for each push and with its markup, and no other page.
In which order the host is asked for them is left open. The notification sent as a request is refused, and
nothing else comes of it. -/
theorem panels_correspond_to_pushes {s : Controller} {features : List Feature}
    (hfeatures : Feature.ShowsPages features)
    (hs : s = {} ∨ ∃ target options, s = opens target options features) :
    (∀ k inputs, (pagesOf k (s.history inputs)).Perm ((s.pushes k inputs).map Panel.Page.ofHtml)) ∧
    ∀ k inputs e frame id, (s.run inputs).1.hears k = true → frame.get? "id" = some id →
      Rpc.method? frame = some Panel.notification →
      ∃ c reply error, (s.run inputs).1.phase.client? = some c ∧
        ((s.run inputs).1.step e (.arrive k (.frame frame))).2 =
          (s.run inputs).1.ofClient (c.write reply) ∧
        reply.toJson.get? "id" = some id ∧ reply.toJson.get? "error" = some error ∧
        error.get? "code" = some (.int (-32601)) := by
  have hattends : s.phase.Attends := by
    rcases hs with rfl | ⟨target, options, rfl⟩
    · exact Phase.attends_of_none rfl
    · exact attends_opens target options hfeatures
  refine ⟨fun k inputs => .of_eq (pages_history hattends k inputs), ?_⟩
  intro k inputs e frame id hhears hid hmethod
  obtain ⟨c, hc, hacts⟩ := arrive_of_hears hhears e frame
  rw [c.acts_dispatch_of_request hid hmethod] at hacts
  exact ⟨c, .reply id (.unknownMethod Panel.notification), _, hc, hacts, Rpc.get?_reply .., Rpc.get?_reply ..,
    Rpc.code_unknownMethod _⟩

def pushOf (html : String) : Json :=
  Rpc.notification Panel.notification (some (.string html))

def arrival (attempt : Nat) (frame : Json) : Input :=
  .arrive attempt (.frame frame)

def accepting (id : Nat) : Json :=
  .ofFields [("id", .nat id), ("result", .null)]

def inOneEditor (inputs : List Input) : List (Editor × Input) :=
  inputs.map (⟨{}, ⟨[]⟩, none, 0⟩, ·)

/-- A client goes through its handshake, whose answer comes in time. -/
def handshakeOf (attempt : Nat) : List Input :=
  [.proceed, .proceed, .proceed, arrival attempt (accepting 1), .proceed, .proceed, .proceed]

/-- Pushes before the answer, to an active client, during the farewell and to the next client, and the
notification sent as a request. -/
def pushesInTurn : List (Editor × Input) :=
  let inList : Json := Rpc.notification Panel.notification (some (.array [.string "b", .nat 1]))
  let request : Json := .ofFields [("id", .nat 7), ("method", .string Panel.notification),
    ("params", .string "c")]
  inOneEditor (arrival 1 (pushOf "a") :: handshakeOf 1 ++
    [arrival 1 inList, arrival 1 request, .perform .restart, .proceed, arrival 1 (pushOf "d"), .proceed,
      arrival 1 (pushOf "e"), .proceed, .proceed, .proceed, arrival 1 (accepting 2), .proceed, .proceed,
      .proceed, .reached .established, arrival 1 (pushOf "f")] ++
    handshakeOf 2 ++ [arrival 2 (pushOf "g")])

theorem panels_correspond_to_pushes_in_turn :
    Feature.ShowsPages [.pages] ∧
      (pagesOf 1 (history (opens (.port ⟨5007⟩) {} [.pages]) pushesInTurn)).Perm
        [.ofHtml "b", .ofHtml "d"] ∧
      (pagesOf 2 (history (opens (.port ⟨5007⟩) {} [.pages]) pushesInTurn)).Perm [.ofHtml "g"] := by
  have hpages := (panels_correspond_to_pushes Feature.showsPages_pages
    (s := opens (.port ⟨5007⟩) {} [.pages]) (.inr ⟨_, _, rfl⟩)).1
  exact ⟨Feature.showsPages_pages, hpages 1 pushesInTurn, hpages 2 pushesInTurn⟩

def pushHeeder : Feature where
  subscriptions := [(Panel.notification, .heed)]

/-- A feature that subscribes later takes the pushes, though they come in time. -/
theorem later_subscriber_takes_pushes :
    let s := opens (.port ⟨5007⟩) {} [.pages, pushHeeder]
    let inputs := inOneEditor (handshakeOf 1 ++ [arrival 1 (pushOf "a")])
    s.pushes 1 inputs = ["a"] ∧ pagesOf 1 (s.history inputs) = [] :=
  ⟨rfl, rfl⟩

theorem Phase.isSubscribed_eq {p : Phase} (hstays : .dispose ∉ p.stages) :
    p.isSubscribed = decide (.setUp ∈ p.stages) := by
  cases p with
  | opening target c next => cases next <;> rfl
  | closing c next sequel =>
      cases next with
      | dispose => rfl
      | _ => simp [Phase.stages, Client.Farewell.stages] at hstays
  | _ => rfl

theorem Phase.Attends.acts_push {p : Phase} {c : Client} (hp : p.Attends) (hheld : p.client? = some c)
    {frame : Json} {html : String} (hpush : Rpc.markup? frame = some html) :
    (c.dispatch frame).2 = if p.isSubscribed then [.openedPanel (.ofHtml html)] else [] := by
  have hc := hp c hheld
  cases hsubscribed : p.isSubscribed with
  | true =>
      rw [hsubscribed] at hc
      exact Client.acts_dispatch_of_markup? hc.showPages hpush
  | false =>
      rw [hsubscribed] at hc
      exact Client.acts_dispatch_of_markup?_of_none hc.subscriptions hpush

theorem not_hears_of_isPast {s : Controller} (hpast : s.IsPast) : s.hears 1 = false := by
  rcases hpast with ⟨-, hidle⟩ | hlater
  · simp [hears, hidle, Phase.client?]
  · simp [hears, Nat.ne_of_lt hlater]

/-- Until a client disposes of its features, a push opens its page if they have been set up by the time it is
taken, and is lost otherwise. They have been set up once the client has said that the introduction is over. -/
theorem pushes_shown_once_set_up {features : List Feature} (hfeatures : Feature.ShowsPages features)
    (target : Target) (options : Client.Options) (inputs : List (Editor × Input))
    (i : Fin features.length) :
    let s := (run (opens target options features) inputs).1
    let acts := clientActs 1 (history (opens target options features) inputs)
    (∀ e frame html, s.hears 1 = true → Rpc.markup? frame = some html →
      .dispose ∉ Client.stagesOf i acts →
      (s.step e (.arrive 1 (.frame frame))).2 =
        if .setUp ∈ Client.stagesOf i acts then [.client 1 (.openedPanel (.ofHtml html))] else []) ∧
    (.wrote .introduced ∈ acts → .setUp ∈ Client.stagesOf i acts) := by
  intro s acts
  have hattends : s.phase.Attends := (moves_history _ inputs).keeps
    (fun hs move => move.attends hs) (attends_opens target options hfeatures)
  cases leads_history target options features inputs with
  | @held c holds =>
      have hstages : Client.stagesOf i acts = s.phase.stages := holds.led.stages i i.isLt
      rw [hstages]
      constructor
      · intro e frame html hhears hpush hstays
        obtain ⟨d, hd, hacts⟩ := arrive_of_hears hhears e frame
        have hone : s.attempts = 1 := holds.attempts
        rw [hacts, hattends.acts_push hd hpush, Phase.isSubscribed_eq hstays, ofClient, hone]
        by_cases hsetUp : .setUp ∈ s.phase.stages <;> simp [hsetUp]
      · intro hintroduced
        rcases Phase.eq_of_client? holds.held with ⟨_, _, hp⟩ | ⟨_, hp⟩ | ⟨next, _, hp⟩
        · exact absurd hintroduced (holds.opening _ _ _ hp)
        · rw [show s.phase = _ from hp]
          simp [Phase.stages]
        · rw [show s.phase = _ from hp]
          cases next <;> simp [Phase.stages, Client.Farewell.stages]
  | @gone stages before hpast ended =>
      constructor
      · intro e frame html hhears
        rw [not_hears_of_isPast hpast] at hhears
        cases hhears
      · intro hintroduced
        have hmem : .wrote .introduced ∈ before ++ [.hungUp] := ended.acts ▸ hintroduced
        rw [show Client.stagesOf i acts = stages from ended.led.stages i i.isLt,
          ended.disposed (by simpa using hmem)]
        simp

/-- The answer to the introduction and a push right behind it, both taken before the client sets up its
features. -/
def pushBehindAnswer : List (Editor × Input) :=
  inOneEditor [.proceed, .proceed, .proceed, arrival 1 (accepting 1), arrival 1 (pushOf "a"), .proceed, .proceed,
    .proceed]

theorem pushes_shown_once_set_up_active :
    Feature.ShowsPages [.pages] ∧
      ((run (opens (.port ⟨5007⟩) {} [.pages]) pushBehindAnswer).1.step ⟨{}, ⟨[]⟩, none, 0⟩
        (arrival 1 (pushOf "b"))).2 = [.client 1 (.openedPanel (.ofHtml "b"))] := by
  refine ⟨Feature.showsPages_pages, ?_⟩
  exact (pushes_shown_once_set_up Feature.showsPages_pages (.port ⟨5007⟩) {} pushBehindAnswer 0).1
    ⟨{}, ⟨[]⟩, none, 0⟩ (pushOf "b") "b" rfl rfl (by decide)

/-- The server has accepted the introduction and nobody stops the client, but the push behind the answer
opens no page. -/
theorem push_behind_answer_is_lost :
    let s := opens (.port ⟨5007⟩) {} [.pages]
    heardBy 1 (s.history pushBehindAnswer) = [accepting 1, pushOf "a"] ∧
      Client.Granted 1 [accepting 1] ∧ Rpc.markup? (pushOf "a") = some "a" ∧
      (∃ target c, (s.run pushBehindAnswer).1.phase = .active target c) ∧
      pagesOf 1 (s.history pushBehindAnswer) = [] :=
  ⟨rfl, ⟨_, List.mem_singleton.mpr rfl, rfl, rfl⟩, rfl, ⟨_, _, rfl⟩, rfl⟩

end Controller

end ServerLink
