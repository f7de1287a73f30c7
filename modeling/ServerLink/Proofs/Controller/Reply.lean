import ServerLink.Proofs.Client.Reply
import ServerLink.Proofs.Controller.Coherence

namespace ServerLink

namespace Client

theorem replies_callAll (features : List Feature) (call : Feature.Call) :
    replies ((List.range features.length).map (.called · call)) = [] := by
  simp [replies, List.filterMap_map]

theorem replies_write (c : Client) {m : Message} (h : (Act.wrote m).said? = some m) :
    replies (c.write m) = [] := by
  unfold write
  split
  · cases m with
    | reply => cases h
    | _ => rfl
  · rfl

theorem replies_report (c : Client) (uri language : String) (deed : Document.Deed) :
    replies (c.report uri language deed).2 = [] := by
  have hreport : (c.report uri language deed).2 =
      ((c.documents.take uri language deed).2.map (c.write <| .document ·)).getD [] := rfl
  rw [hreport]
  cases (c.documents.take uri language deed).2 with
  | none => rfl
  | some notice => exact c.replies_write rfl

theorem Handshake.replies_step {c d : Client} {next next' : Handshake} {acts : List Act}
    (hstep : next.step c = (.next d next', acts)) : replies acts = [] := by
  cases next <;> simp only [Handshake.step] at hstep
  case prepare | settle =>
    split at hstep <;> cases hstep
    exact replies_callAll _ _
  case enter =>
    cases hstep
    rfl
  case conclude => split at hstep <;> cases hstep
  all_goals
    split at hstep <;> cases hstep
    rfl

theorem Farewell.replies_step {c d : Client} {next next' : Farewell} {acts : List Act}
    (hstep : next.step c = (.next d next', acts)) : replies acts = [] := by
  cases next <;> simp only [Farewell.step] at hstep
  case dispose =>
    cases hstep
    exact replies_callAll _ _
  case exit =>
    cases hstep
    exact c.replies_write rfl
  case hangUp => cases hstep
  case write | await =>
    split at hstep <;> cases hstep
    all_goals rfl
  all_goals
    cases hstep
    rfl

theorem Served.answers {c d : Client} {frames : List Json} {acts : List Act}
    (hserved : c.Served frames acts d) (hwritable : c.writable = true) :
    List.Forall₂ Rpc.Answers (frames.filter Rpc.isRequest) (replies acts) := by
  have haside := hserved.aside
  cases hserved with
  | took frame =>
      have hall := answers_dispatchAll hwritable [frame]
      simpa only [dispatchAll, List.append_nil, written_of_aside haside] using hall
  | _ => exact .nil

theorem Served.replies_of_jammed {c d : Client} {frames : List Json} {acts : List Act}
    (hserved : c.Served frames acts d) (hjammed : c.writable = false) : replies acts = [] := by
  cases hserved with
  | took frame =>
      unfold dispatch
      split
      · rfl
      · rfl
      · simp [write, hjammed, replies_answer]
      · exact c.replies_heed _ _
  | _ => rfl

end Client

namespace Controller

def requestsHeard (attempt : Nat) (h : List Note) : List Json :=
  (heardBy attempt h).filter Rpc.isRequest

def repliesOf (attempt : Nat) (h : List Note) : List Json :=
  Client.replies (clientActs attempt h)

/-- A history throughout which the replies belong to the requests. -/
structure Replying (h : List Note) (s : Controller) : Prop where
  every : ∀ k, ∃ answered, answered <+: requestsHeard k h ∧
    List.Forall₂ Rpc.Answers answered (repliesOf k h)
  held : ∀ c, s.phase.client? = some c → c.writable = true →
    List.Forall₂ Rpc.Answers (requestsHeard s.attempts h) (repliesOf s.attempts h)

/-- Notes that tell neither of a request nor of a reply. -/
structure Quiet (new : List Note) : Prop where
  heard : ∀ k, requestsHeard k new = []
  replies : ∀ k, repliesOf k new = []

@[simp] theorem requestsHeard_append (k : Nat) (h new : List Note) :
    requestsHeard k (h ++ new) = requestsHeard k h ++ requestsHeard k new := by
  simp [requestsHeard]

@[simp] theorem repliesOf_append (k : Nat) (h new : List Note) :
    repliesOf k (h ++ new) = repliesOf k h ++ repliesOf k new := by
  simp [repliesOf]

theorem quiet_nil : Quiet [] :=
  ⟨fun _ => rfl, fun _ => rfl⟩

theorem Quiet.append {h new : List Note} (hh : Quiet h) (hnew : Quiet new) : Quiet (h ++ new) :=
  ⟨fun k => by simp [hh.heard, hnew.heard], fun k => by simp [hh.replies, hnew.replies]⟩

theorem quiet_of_silent {new : List Note} (hnew : ∀ k, Silent k new) : Quiet new :=
  ⟨fun k => by simp [requestsHeard, (hnew k).heard],
    fun k => by rw [repliesOf, (hnew k).acts]; rfl⟩

theorem quiet_clientNotes (attempt : Nat) {acts : List Client.Act}
    (hacts : Client.replies acts = []) : Quiet (clientNotes attempt acts) := by
  constructor
  · intro k
    simp [requestsHeard]
  · intro k
    by_cases hk : k = attempt
    · subst hk
      simpa [repliesOf] using hacts
    · simp [repliesOf, (silent_clientNotes hk acts).acts, Client.replies]

theorem quiet_did (act : Act) (hact : ∀ k, (Note.did act).clientAct? k = none) : Quiet [.did act] :=
  quiet_of_silent fun k => silent_did k act (hact k)

/-- A move that is not the taking of a value off the stream neither hears a request nor replies to one. -/
theorem Move.quiet_or_served {s t : Controller} {new : List Note} (move : s.Move new t) :
    Quiet new ∨ ∃ c d frames acts, s.phase.client? = some c ∧ c.Served frames acts d ∧
      new = frames.map (.heard s.attempts) ++ clientNotes s.attempts acts ∧
      t = { s with phase := s.phase.setClient d } := by
  cases move with
  | served hheld hserved => exact .inr ⟨_, _, _, _, hheld, hserved, rfl, rfl⟩
  | refused | dismissed | unlaunched => exact .inl (quiet_did _ fun _ => rfl)
  | began _ hbegins => exact .inl (quiet_of_silent hbegins.silent)
  | connected | passed => exact .inl ⟨fun _ => rfl, fun _ => rfl⟩
  | unreachable => exact .inl ((quiet_did _ fun _ => rfl).append (quiet_did _ fun _ => rfl))
  | shook _ hstep => exact .inl (quiet_clientNotes _ (Client.Handshake.replies_step hstep))
  | started _ hstep =>
      obtain ⟨rfl, rfl, rfl⟩ := handshake_done hstep
      exact .inl ((quiet_clientNotes _ rfl).append (quiet_did _ fun _ => rfl))
  | abandoned => exact .inl ((quiet_clientNotes _ rfl).append (quiet_did _ fun _ => rfl))
  | closed | gaveUp => exact .inl quiet_nil
  | parting _ hstep => exact .inl (quiet_clientNotes _ (Client.Farewell.replies_step hstep))
  | parted => exact .inl (quiet_clientNotes _ rfl)
  | partedOffering => exact .inl ((quiet_clientNotes _ rfl).append (quiet_did _ fun _ => rfl))
  | partedBeginning _ hbegins =>
      exact .inl ((quiet_clientNotes _ rfl).append (quiet_of_silent hbegins.silent))
  | told event hphase =>
      have hreported : Quiet [.reported s.attempts event] := ⟨fun _ => rfl, fun _ => rfl⟩
      exact .inl (hreported.append (quiet_clientNotes _ (Client.replies_report ..)))
  | toldFiles => exact .inl (quiet_clientNotes _ (Client.replies_write _ rfl))

theorem Begins.client? {s t : Controller} {new : List Note} (hbegins : s.Begins new t) :
    t.phase.client? = none := by
  cases hbegins <;> rfl

/-- A client whose server takes what is written is a new one, or was there with its server taking it. -/
theorem Move.writable {s t : Controller} {new : List Note} (move : s.Move new t) {d : Client}
    (hheld : t.phase.client? = some d) (hwritable : d.writable = true) :
    t.attempts = s.attempts ∧ ((∃ target options, s.phase = .connecting target options) ∨
      ∃ c, s.phase.client? = some c ∧ c.writable = true) := by
  cases move with
  | refused => exact ⟨rfl, .inr ⟨d, hheld, hwritable⟩⟩
  | dismissed prompt =>
      rw [phase_dismiss] at hheld
      exact ⟨s.attempts_dismiss prompt, .inr ⟨d, hheld, hwritable⟩⟩
  | began _ hbegins => simp [hbegins.client?] at hheld
  | partedBeginning _ hbegins => simp [hbegins.client?] at hheld
  | connected hphase => exact ⟨rfl, .inl ⟨_, _, hphase⟩⟩
  | shook hphase hstep =>
      cases hheld
      obtain ⟨-, -, -, hsame⟩ := Client.Handshake.unchanged_step hstep
      rw [hsame] at hwritable
      exact ⟨rfl, .inr ⟨_, by rw [hphase]; rfl, hwritable⟩⟩
  | started hphase hstep =>
      obtain ⟨-, rfl, -⟩ := handshake_done hstep
      cases hheld
      exact ⟨rfl, .inr ⟨_, by rw [hphase]; rfl, hwritable⟩⟩
  | closed _ hphase =>
      cases hheld
      exact ⟨rfl, .inr ⟨_, by rw [hphase]; rfl, hwritable⟩⟩
  | parting hphase hstep =>
      cases hheld
      rw [(Client.Farewell.unchanged_step hstep).2] at hwritable
      exact ⟨rfl, .inr ⟨_, by rw [hphase]; rfl, hwritable⟩⟩
  | gaveUp hphase hexpire =>
      cases hheld
      rw [(Client.Farewell.unchanged_expire hexpire).2] at hwritable
      exact ⟨rfl, .inr ⟨_, by rw [hphase]; rfl, hwritable⟩⟩
  | served hbefore hserved =>
      rw [Phase.client?_setClient hbefore] at hheld
      cases hheld
      exact ⟨rfl, .inr ⟨_, hbefore, hserved.kept.writable hwritable⟩⟩
  | passed _ hphase => exact ⟨rfl, .inr ⟨d, hheld, hwritable⟩⟩
  | told event hphase =>
      cases hheld
      have hsame (c : Client) (uri language : String) (deed : Document.Deed) :
          (c.report uri language deed).1.writable = c.writable := rfl
      rw [hsame] at hwritable
      exact ⟨rfl, .inr ⟨_, by rw [hphase]; rfl, hwritable⟩⟩
  | toldFiles => exact ⟨rfl, .inr ⟨d, hheld, hwritable⟩⟩
  | _ => cases hheld

theorem Replying.served {h : List Note} {s : Controller} (hr : Replying h s) {c d : Client}
    {frames : List Json} {acts : List Client.Act} (hheld : s.phase.client? = some c)
    (hserved : c.Served frames acts d) (k : Nat) :
    ∃ answered, answered <+: requestsHeard k (h ++
        (frames.map (.heard s.attempts) ++ clientNotes s.attempts acts)) ∧
      List.Forall₂ Rpc.Answers answered (repliesOf k (h ++
        (frames.map (.heard s.attempts) ++ clientNotes s.attempts acts))) ∧
      (k = s.attempts → c.writable = true → answered = requestsHeard k (h ++
        (frames.map (.heard s.attempts) ++ clientNotes s.attempts acts))) := by
  by_cases hk : k = s.attempts
  · subst hk
    have hnew : requestsHeard s.attempts (frames.map (.heard s.attempts) ++
        clientNotes s.attempts acts) = frames.filter Rpc.isRequest := by
      simp [requestsHeard]
    have hreplied : repliesOf s.attempts (frames.map (.heard s.attempts) ++
        clientNotes s.attempts acts) = Client.replies acts := by
      simp [repliesOf]
    rw [requestsHeard_append, repliesOf_append, hnew, hreplied]
    cases hwritable : c.writable with
    | true =>
        have hall := List.rel_append (hr.held c hheld hwritable) (hserved.answers hwritable)
        exact ⟨_, List.prefix_rfl, hall, fun _ _ => rfl⟩
    | false =>
        obtain ⟨answered, hprefix, hanswers⟩ := hr.every s.attempts
        rw [hserved.replies_of_jammed hwritable, List.append_nil]
        exact ⟨answered, hprefix.trans (List.prefix_append _ _), hanswers, nofun⟩
  · obtain ⟨answered, hprefix, hanswers⟩ := hr.every k
    have hquiet := (silent_heard hk frames).append (silent_clientNotes hk acts)
    have hheard : requestsHeard k (frames.map (.heard s.attempts) ++
        clientNotes s.attempts acts) = [] := by
      rw [requestsHeard, hquiet.heard]
      rfl
    have hreplied : repliesOf k (frames.map (.heard s.attempts) ++
        clientNotes s.attempts acts) = [] := by
      rw [repliesOf, hquiet.acts]
      rfl
    rw [requestsHeard_append, repliesOf_append, hheard, hreplied, List.append_nil, List.append_nil]
    exact ⟨answered, hprefix, hanswers, fun h => absurd h hk⟩

theorem Replying.move {h new : List Note} {s t : Controller} (hr : Replying h s)
    (hc : Coherent h s) (move : s.Move new t) : Replying (h ++ new) t := by
  rcases move.quiet_or_served with hquiet | ⟨c, d, frames, acts, hheld, hserved, rfl, rfl⟩
  · constructor
    · intro k
      rw [requestsHeard_append, repliesOf_append, hquiet.heard, hquiet.replies, List.append_nil,
        List.append_nil]
      exact hr.every k
    · intro d hd hwritable
      obtain ⟨hattempts, ⟨target, options, hphase⟩ | ⟨c, hc, hbefore⟩⟩ := move.writable hd hwritable
      · obtain ⟨hacts, hheard, -⟩ := hc.describes hphase
        rw [hattempts, requestsHeard_append, repliesOf_append, hquiet.heard, hquiet.replies,
          requestsHeard, repliesOf, hacts, hheard]
        exact .nil
      · rw [hattempts, requestsHeard_append, repliesOf_append, hquiet.heard, hquiet.replies,
          List.append_nil, List.append_nil]
        exact hr.held c hc hbefore
  · constructor
    · intro k
      obtain ⟨answered, hprefix, hanswers, -⟩ := hr.served hheld hserved k
      exact ⟨answered, hprefix, hanswers⟩
    · intro b hb hwritable
      rw [Phase.client?_setClient hheld] at hb
      cases hb
      obtain ⟨answered, -, hanswers, hall⟩ := hr.served hheld hserved s.attempts
      rw [hall rfl (hserved.kept.writable hwritable)] at hanswers
      exact hanswers

theorem replying_history (inputs : List (Editor × Input)) :
    Replying (history {} inputs) (run {} inputs).1 :=
  coherent_induction Replying ⟨fun _ => ⟨[], List.prefix_rfl, .nil⟩, nofun⟩
    (fun _ _ _ _ hc hr move => hr.move hc move) inputs

/-- Whatever a client is about to do, it replies to every request among the values that it takes, once and
in their order, and writes nothing else upon them. So on every connection the replies belong to the first of
the requests that were heard, and to all of them as long as the server takes what is written. -/
theorem every_request_answered {c : Client} (hwritable : c.writable = true) (frames : List Json)
    (inputs : List (Editor × Input)) :
    List.Forall₂ Rpc.Answers (frames.filter Rpc.isRequest)
      (Client.written (c.dispatchAll frames).2) ∧
    (∀ k, ∃ answered, answered <+: requestsHeard k (history {} inputs) ∧
      List.Forall₂ Rpc.Answers answered (repliesOf k (history {} inputs))) ∧
    ∀ d, (run {} inputs).1.phase.client? = some d → d.writable = true →
      List.Forall₂ Rpc.Answers (requestsHeard (run {} inputs).1.attempts (history {} inputs))
        (repliesOf (run {} inputs).1.attempts (history {} inputs)) := by
  have hreplying := replying_history inputs
  exact ⟨Client.answers_dispatchAll hwritable frames, hreplying.every, hreplying.held⟩

/-- Two requests, one with `null` for its identifier and a result beside it, among values that are none. -/
def traffic : List Json :=
  [.ofFields [("id", .null), ("method", .string "client/registerCapability"), ("result", .nat 1)],
    .ofFields [("id", .nat 1), ("result", .null)], .array [],
    .ofFields [("id", .string "a"), ("method", .string "eval")],
    .ofFields [("id", .nat 2), ("method", .nat 3)], .ofFields [("method", .string "eval")]]

theorem every_request_answered_traffic :
    let c : Client := { options := {}, features, nextId := 2, waiting := { pending := [1] } }
    c.writable = true ∧ ∃ first second, Client.written (c.dispatchAll traffic).2 = [first, second] ∧
      first.get? "id" = some .null ∧ (first.get? "result").isSome = true ∧
      second.get? "id" = some (.string "a") ∧ (second.get? "error").isSome = true := by
  intro c
  refine ⟨rfl, ?_⟩
  have hanswers := (every_request_answered (c := c) rfl traffic []).1
  have hrequests : traffic.filter Rpc.isRequest = [traffic[0], traffic[3]] := by rfl
  rw [hrequests] at hanswers
  obtain ⟨first, rest, hfirst, hrest, hwritten⟩ := List.forall₂_cons_left_iff.mp hanswers
  obtain ⟨second, rest, hsecond, hnone, rfl⟩ := List.forall₂_cons_left_iff.mp hrest
  obtain rfl := List.forall₂_nil_left_iff.mp hnone
  exact ⟨first, second, hwritten, hfirst.identifier, hfirst.result, hsecond.identifier, hsecond.error⟩

end Controller

end ServerLink
