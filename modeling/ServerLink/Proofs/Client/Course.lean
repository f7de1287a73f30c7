import ServerLink.Proofs.Client.Conversation

/-!
The course of a connection: what a client has done before each step of its handshake and of its farewell.
The introduction is the request 1 and is over once it was granted; the request 2 asks the server to shut
down, and only once that was granted the server is told to exit.
-/

namespace ServerLink.Client

namespace Handshake

/-- The request for whose answer the handshake is about to wait. -/
def awaited : Handshake → List Nat
  | .write id _ => [id]
  | .await id => [id]
  | _ => []

def nextId : Handshake → Nat
  | .prepare => 1
  | .enter _ => 1
  | _ => 2

/-- What has been said before a step. -/
def HasSaid (said : List Message) : Handshake → Prop
  | .prepare => said = []
  | .enter _ => said = []
  | .write .. => said = []
  | _ => ∃ offer, said = [.introduce 1 offer]

/-- What has been heard before a step. -/
def HasHeard (heard : List Json) : Handshake → Prop
  | .write id _ => id = 1
  | .await id => id = 1
  | .settle answer =>
      answer ∈ heard ∧ Rpc.Incoming.ofFrame? answer = some (.response 1 answer)
  | .conclude => Granted 1 heard
  | _ => True

/-- A client before a step of its handshake. -/
structure Course (c : Client) (next : Handshake) (acts : List Act) (heard : List Json) : Prop where
  sound : c.Sound heard
  pending : ∀ id ∈ c.waiting.pending, id ∈ next.awaited
  nextId : c.nextId = next.nextId
  stays : ∀ act ∈ acts, act.isParting = false
  said : next.HasSaid (said acts)
  holds : next.HasHeard heard

theorem HasHeard.mono {next : Handshake} {heard : List Json} (h : next.HasHeard heard)
    (more : List Json) : next.HasHeard (heard ++ more) := by
  cases next with
  | settle answer => exact ⟨List.mem_append_left _ h.1, h.2⟩
  | conclude => exact Granted.mono h more
  | _ => exact h

theorem course_fresh (options : Options) (features : List Feature) :
    Course { options, features } .prepare [] [] :=
  ⟨sound_fresh options features, nofun, rfl, nofun, rfl, trivial⟩

theorem Course.served {c d : Client} {next : Handshake} {acts new : List Act}
    {heard frames : List Json} (hc : Course c next acts heard)
    (hserved : c.Served frames new d) : Course d next (acts ++ new) (heard ++ frames) where
  sound := hc.sound.served hserved
  pending id h := hc.pending id (hserved.kept.pending id h)
  nextId := hserved.kept.nextId.trans hc.nextId
  stays act hact := by
    rcases List.mem_append.mp hact with hact | hact
    · exact hc.stays act hact
    · exact (hserved.aside act hact).2
  said := by
    rw [said_append, said_of_aside hserved.aside, List.append_nil]
    exact hc.said
  holds := hc.holds.mono frames

theorem stays_callAll (c : Client) {call : Feature.Call} (hcall : call ≠ .dispose) :
    ∀ act ∈ callAll c call, act.isParting = false := by
  intro act hact
  obtain ⟨feature, -, rfl⟩ := List.mem_map.mp hact
  cases call with
  | dispose => exact absurd rfl hcall
  | _ => rfl

theorem said_callAll (c : Client) (call : Feature.Call) : Client.said (callAll c call) = [] := by
  refine List.filterMap_eq_nil_iff.mpr ?_
  intro act hact
  obtain ⟨feature, -, rfl⟩ := List.mem_map.mp hact
  rfl

theorem unchanged_step {c d : Client} {next next' : Handshake} {acts : List Act}
    (hstep : next.step c = (.next d next', acts)) :
    d.features = c.features ∧ d.documents = c.documents ∧ d.inflow = c.inflow ∧
      d.writable = c.writable := by
  cases next <;> simp only [Handshake.step] at hstep
  case enter =>
    cases hstep
    exact ⟨rfl, rfl, rfl, rfl⟩
  case conclude => split at hstep <;> cases hstep
  all_goals
    split at hstep <;> cases hstep
    exact ⟨rfl, rfl, rfl, rfl⟩

theorem said_step {c d : Client} {next next' : Handshake} {acts : List Act}
    (hstep : next.step c = (.next d next', acts)) :
    Client.said acts = [] ∨ ∃ id offer, Client.said acts = [.introduce id offer] := by
  cases next <;> simp only [Handshake.step] at hstep
  case prepare =>
    split at hstep <;> cases hstep
    exact .inl (said_callAll _ _)
  case enter =>
    cases hstep
    exact .inl rfl
  case write id offer =>
    split at hstep <;> cases hstep
    exact .inr ⟨id, offer, rfl⟩
  case await =>
    split at hstep <;> cases hstep
    exact .inl rfl
  case settle =>
    split at hstep <;> cases hstep
    exact .inl (said_callAll _ _)
  case conclude => split at hstep <;> cases hstep

theorem Course.said_or {c : Client} {next : Handshake} {acts : List Act} {heard : List Json}
    (hc : Course c next acts heard) :
    Client.said acts = [] ∨ ∃ offer, Client.said acts = [.introduce 1 offer] := by
  have hsaid := hc.said
  cases next with
  | prepare => exact .inl hsaid
  | enter => exact .inl hsaid
  | write => exact .inl hsaid
  | _ => exact .inr hsaid

theorem Course.pending_of_answered {c : Client} {id : Nat} {body : Json} {acts : List Act}
    {heard : List Json} (hc : Course c (.await id) acts heard)
    (hanswered : c.waiting.state id = .answered body) : ∀ n ∈ c.waiting.pending, n ∈ ([] : List Nat) := by
  intro n hn
  obtain rfl : n = id := List.mem_singleton.mp (hc.pending n hn)
  exact absurd hn (hc.sound.settled n body (mem_delivered_of_answered hanswered))

theorem Course.step {c d : Client} {next next' : Handshake} {acts new : List Act}
    {heard : List Json} (hc : Course c next acts heard)
    (hstep : next.step c = (.next d next', new)) : Course d next' (acts ++ new) heard := by
  cases next <;> simp only [Handshake.step] at hstep
  case prepare =>
    split at hstep <;> cases hstep
    exact {
      sound := hc.sound
      pending := hc.pending
      nextId := hc.nextId
      stays := List.forall_mem_append.mpr ⟨hc.stays, stays_callAll c (by simp)⟩
      said := by
        rw [said_append, said_callAll, List.append_nil]
        exact hc.said
      holds := trivial }
  case enter offer =>
    cases hstep
    have hid : c.nextId = 1 := hc.nextId
    have hpending : c.waiting.pending = [] := List.eq_nil_of_subset_nil fun id => hc.pending id
    exact {
      sound := hc.sound.enter
      pending := fun id h => by
        rw [Client.enter, Rpc.Waiting.enter, hpending] at h
        exact h
      nextId := congrArg (· + 1) hid
      stays := by simpa using hc.stays
      said := by simpa [HasSaid] using hc.said
      holds := hid }
  case write id offer =>
    split at hstep <;> cases hstep
    obtain rfl : id = 1 := hc.holds
    have hsaid : Client.said acts = [] := hc.said
    exact {
      sound := hc.sound
      pending := hc.pending
      nextId := hc.nextId
      stays := List.forall_mem_append.mpr ⟨hc.stays, by simp [Act.isParting]⟩
      said := ⟨offer, by rw [said_append, hsaid]; rfl⟩
      holds := rfl }
  case await id =>
    split at hstep <;> cases hstep
    rename_i body hanswered
    obtain rfl : id = 1 := hc.holds
    exact {
      sound := hc.sound
      pending := hc.pending_of_answered hanswered
      nextId := hc.nextId
      stays := by simpa using hc.stays
      said := by
        rw [List.append_nil]
        exact hc.said
      holds := hc.sound.heard 1 body (mem_delivered_of_answered hanswered) }
  case settle answer =>
    split at hstep <;> cases hstep
    rename_i hgranted
    obtain ⟨hmem, hanswer⟩ := hc.holds
    exact {
      sound := hc.sound.of_pending rfl rfl fun _ h => h
      pending := hc.pending
      nextId := hc.nextId
      stays := List.forall_mem_append.mpr ⟨hc.stays, stays_callAll c (by simp)⟩
      said := by
        rw [said_append, said_callAll, List.append_nil]
        exact hc.said
      holds := ⟨answer, hmem, hanswer, hgranted⟩ }
  case conclude => split at hstep <;> cases hstep

end Handshake

/-- The introduction is over, and reports have been made. -/
structure Talked (acts : List Act) : Prop where
  stays : ∀ act ∈ acts, act.isParting = false
  said : ∃ offer reports, said acts = .introduce 1 offer :: .introduced :: reports ∧
    ∀ m ∈ reports, m.isReport = true

theorem Talked.append {acts new : List Act} (ht : Talked acts)
    (hnew : ∀ act ∈ new, act.IsReporting) : Talked (acts ++ new) := by
  obtain ⟨offer, reports, hsaid, hall⟩ := ht.said
  constructor
  · exact List.forall_mem_append.mpr ⟨ht.stays, fun act hact => (hnew act hact).1⟩
  · refine ⟨offer, reports ++ Client.said new, ?_, ?_⟩
    · rw [said_append, hsaid, List.cons_append, List.cons_append]
    · exact List.forall_mem_append.mpr ⟨hall, fun m hm => isReport_of_mem_said hnew hm⟩

/-- A client that waits for nothing and has made its first request only. -/
structure Rests (c : Client) : Prop where
  nextId : c.nextId = 2
  pending : c.waiting.pending = []

theorem Rests.served {c d : Client} {frames : List Json} {acts : List Act} (hr : c.Rests)
    (hserved : c.Served frames acts d) : d.Rests where
  nextId := hserved.kept.nextId.trans hr.nextId
  pending := by
    have hsubset : d.waiting.pending ⊆ c.waiting.pending := fun id => hserved.kept.pending id
    rw [hr.pending] at hsubset
    exact List.eq_nil_of_subset_nil hsubset

theorem Handshake.Course.conclude {c : Client} {acts : List Act} {heard : List Json}
    (hc : Handshake.Course c .conclude acts heard) :
    c.Rests ∧ Talked (acts ++ [.wrote .introduced]) ∧ Granted 1 heard := by
  obtain ⟨offer, hsaid⟩ := hc.said
  have hpending : c.waiting.pending = [] := List.eq_nil_of_subset_nil fun id => hc.pending id
  refine ⟨⟨hc.nextId, hpending⟩, ⟨?_, offer, [], ?_, nofun⟩, hc.holds⟩
  · exact List.forall_mem_append.mpr ⟨hc.stays, by simp [Act.isParting]⟩
  · rw [said_append, hsaid]
    rfl

def disposals (features : List Feature) : List Act :=
  (List.range features.length).map (.called · .dispose)

theorem said_disposals (features : List Feature) : said (disposals features) = [] := by
  refine List.filterMap_eq_nil_iff.mpr ?_
  intro act hact
  obtain ⟨feature, -, rfl⟩ := List.mem_map.mp hact
  rfl

namespace Farewell

theorem said_step {c d : Client} {next next' : Farewell} {acts : List Act}
    (hstep : next.step c = (.next d next', acts)) :
    Client.said acts = [] ∨ (∃ id, next = .write id ∧ Client.said acts = [.shutdown id]) ∨
      next = .exit ∧ Client.said acts = [.exit] := by
  cases next <;> simp only [Farewell.step] at hstep
  case dispose =>
    cases hstep
    exact .inl (said_disposals c.features)
  case write id =>
    split at hstep <;> cases hstep
    · exact .inr (.inl ⟨id, rfl, rfl⟩)
    · exact .inl rfl
  case await => split at hstep <;> cases hstep <;> exact .inl rfl
  case exit =>
    cases hstep
    unfold Client.write
    split
    · exact .inr (.inr ⟨rfl, rfl⟩)
    · exact .inl rfl
  case hangUp => cases hstep
  all_goals
    cases hstep
    exact .inl rfl

def awaited : Farewell → List Nat
  | .write id => [id]
  | .await id => [id]
  | _ => []

/-- What has been said since the features were disposed of. -/
def HasSaid (said : List Message) : Farewell → Prop
  | .await _ => said = [.shutdown 2]
  | .exit => said = [.shutdown 2]
  | .hangUp => said <+: [.shutdown 2, .exit]
  | _ => said = []

/-- What has been heard before a step, and which request is the next. -/
def HasHeard (c : Client) (heard : List Json) : Farewell → Prop
  | .write id => id = 2
  | .await id => id = 2
  | .exit => Granted 2 heard
  | .hangUp => True
  | _ => c.nextId = 2

/-- A client before a step of its farewell, with what it has done since its features were disposed of. -/
structure Ready (c : Client) (next : Farewell) (later : List Act) (heard : List Json) : Prop where
  sound : c.Sound heard
  pending : ∀ id ∈ c.waiting.pending, id ∈ next.awaited
  stays : ∀ act ∈ later, act.isParting = false
  said : next.HasSaid (said later)
  holds : next.HasHeard c heard

/-- A client before a step of its farewell, with all that it has done. -/
inductive Course (c : Client) (heard : List Json) : Farewell → List Act → Prop where
  | talking {acts : List Act} (talked : Talked acts) (ready : Ready c .dispose [] heard) :
      Course c heard .dispose acts
  | parting {next : Farewell} {earlier later : List Act} (hnext : next ≠ .dispose)
      (talked : Talked earlier) (ready : Ready c next later heard) :
      Course c heard next (earlier ++ disposals c.features ++ later)

theorem Ready.served {c d : Client} {next : Farewell} {later new : List Act}
    {heard frames : List Json} (hr : Ready c next later heard) (hserved : c.Served frames new d) :
    Ready d next (later ++ new) (heard ++ frames) where
  sound := hr.sound.served hserved
  pending id h := hr.pending id (hserved.kept.pending id h)
  stays act hact := by
    rcases List.mem_append.mp hact with hact | hact
    · exact hr.stays act hact
    · exact (hserved.aside act hact).2
  said := by
    rw [said_append, said_of_aside hserved.aside, List.append_nil]
    exact hr.said
  holds := by
    have hholds := hr.holds
    cases next with
    | write => exact hholds
    | await => exact hholds
    | exit => exact Granted.mono hholds frames
    | hangUp => trivial
    | _ => exact hserved.kept.nextId.trans hholds

theorem Course.served {c d : Client} {next : Farewell} {acts new : List Act}
    {heard frames : List Json} (hc : Course c heard next acts) (hserved : c.Served frames new d) :
    Course d (heard ++ frames) next (acts ++ new) := by
  cases hc with
  | talking talked ready =>
      refine .talking (talked.append fun act hact => (hserved.aside act hact).isReporting) ?_
      have hready := ready.served hserved
      exact { hready with stays := nofun, said := rfl }
  | parting hnext talked ready =>
      rw [List.append_assoc, ← hserved.kept.features]
      exact .parting hnext talked (ready.served hserved)

theorem HasSaid.isPrefix {next : Farewell} {messages : List Message} (h : next.HasSaid messages) :
    messages <+: [.shutdown 2, .exit] := by
  cases next with
  | await id => exact h ▸ ⟨[.exit], rfl⟩
  | exit => exact h ▸ ⟨[.exit], rfl⟩
  | hangUp => exact h
  | _ => exact h ▸ List.nil_prefix

section Step

variable {c : Client} {next : Farewell} {later : List Act} {heard : List Json} {id : Nat}

/-- Nothing waits any more once the only request that was awaited does not. -/
theorem Ready.pending_eq_nil (hr : Ready c next later heard) (hawaited : next.awaited = [id])
    (hid : id ∉ c.waiting.pending) : c.waiting.pending = [] := by
  refine List.eq_nil_iff_forall_not_mem.mpr fun n hn => ?_
  have hone := hr.pending n hn
  rw [hawaited, List.mem_singleton] at hone
  exact hid (hone ▸ hn)

/-- The request is given up, and the client hangs up next. -/
theorem Ready.withdrawn (hr : Ready c next later heard) (hawaited : next.awaited = [id]) :
    Ready (c.withdraw id) .hangUp later heard := by
  refine ⟨hr.sound.withdraw id, fun n hn => ?_, hr.stays, hr.said.isPrefix, trivial⟩
  obtain ⟨hn, hne⟩ := List.mem_filter.mp hn
  have hone := hr.pending n hn
  rw [hawaited, List.mem_singleton] at hone
  simp [hone] at hne

theorem Ready.checked (hr : Ready c .check later heard) :
    Ready c (if c.isConnected then .enter else .hangUp) later heard := by
  split
  · exact ⟨hr.sound, hr.pending, hr.stays, hr.said, hr.holds⟩
  · exact ⟨hr.sound, hr.pending, hr.stays, hr.said.isPrefix, trivial⟩

theorem Ready.entered (hr : Ready c .enter later heard) :
    Ready c.enter.2 (.write c.enter.1) later heard := by
  have hpending : c.waiting.pending = [] := List.eq_nil_of_subset_nil fun id => hr.pending id
  refine ⟨hr.sound.enter, fun id h => ?_, hr.stays, hr.said, hr.holds⟩
  rw [Client.enter, Rpc.Waiting.enter, hpending] at h
  exact h

theorem Ready.wrote (hr : Ready c (.write id) later heard) :
    Ready c (.await id) (later ++ [.wrote (.shutdown id)]) heard := by
  obtain rfl : id = 2 := hr.holds
  have hsaid : Client.said later = [] := hr.said
  refine ⟨hr.sound, hr.pending, List.forall_mem_append.mpr ⟨hr.stays, by simp [Act.isParting]⟩, ?_, rfl⟩
  change Client.said (later ++ [.wrote (.shutdown 2)]) = _
  rw [said_append, hsaid]
  rfl

/-- The answer has come: it was heard, and nothing waits any more. -/
theorem Ready.answered (hr : Ready c (.await id) later heard) {body : Json}
    (hanswered : c.waiting.state id = .answered body) :
    Ready c (if (body.get? "error").isSome then .hangUp else .exit) later heard := by
  obtain rfl : id = 2 := hr.holds
  have hmem := mem_delivered_of_answered hanswered
  have hnone : ∀ n ∈ c.waiting.pending, n ∈ [] := by
    rw [hr.pending_eq_nil rfl (hr.sound.settled 2 body hmem)]
    exact fun _ hn => hn
  split
  · exact ⟨hr.sound, hnone, hr.stays, hr.said.isPrefix, trivial⟩
  · rename_i hgranted
    obtain ⟨hheard, hanswer⟩ := hr.sound.heard 2 body hmem
    exact ⟨hr.sound, hnone, hr.stays, hr.said, body, hheard, hanswer, by simpa using hgranted⟩

theorem Ready.lost (hr : Ready c (.await id) later heard) (hlost : c.waiting.state id = .lost) :
    Ready c .hangUp later heard := by
  refine ⟨hr.sound, ?_, hr.stays, hr.said.isPrefix, trivial⟩
  rw [hr.pending_eq_nil rfl (notMem_pending_of_lost hlost)]
  exact fun _ hn => hn

/-- The exit may not be written any more: what has been said is a beginning of the whole farewell. -/
theorem Ready.exited (hr : Ready c .exit later heard) :
    Ready c .hangUp (later ++ c.write .exit) heard := by
  have hsaid : Client.said later = [.shutdown 2] := hr.said
  unfold Client.write
  split
  · refine ⟨hr.sound, hr.pending, List.forall_mem_append.mpr ⟨hr.stays, by simp [Act.isParting]⟩, ?_,
      trivial⟩
    change Client.said (later ++ [.wrote .exit]) <+: _
    rw [said_append, hsaid]
    exact List.prefix_rfl
  · rw [List.append_nil]
    exact ⟨hr.sound, hr.pending, hr.stays, hr.said.isPrefix, trivial⟩

/-- A step that goes on within the farewell, once the features are disposed of. -/
theorem Ready.step {d : Client} {next' : Farewell} {new : List Act} (hr : Ready c next later heard)
    (hnext : next ≠ .dispose) (hstep : next.step c = (.next d next', new)) :
    next' ≠ .dispose ∧ d.features = c.features ∧ Ready d next' (later ++ new) heard := by
  have hsame : later = later ++ [] := (List.append_nil later).symm
  cases next <;> simp only [Farewell.step] at hstep
  case dispose => exact absurd rfl hnext
  case unsubscribe =>
    cases hstep
    exact ⟨by simp, rfl, hr.sound.of_pending rfl rfl fun _ h => h, hr.pending, hsame ▸ hr.stays,
      hsame ▸ hr.said, hr.holds⟩
  case check =>
    cases hstep
    exact ⟨by split <;> simp, rfl, hsame ▸ hr.checked⟩
  case enter =>
    cases hstep
    exact ⟨by simp, rfl, hsame ▸ hr.entered⟩
  case write id =>
    split at hstep <;> cases hstep
    · exact ⟨by simp, rfl, hr.wrote⟩
    · exact ⟨by simp, rfl, hsame ▸ hr.withdrawn rfl⟩
  case await id =>
    split at hstep <;> cases hstep
    · rename_i hanswered
      exact ⟨by split <;> simp, rfl, hsame ▸ hr.answered hanswered⟩
    · rename_i hlost
      exact ⟨by simp, rfl, hsame ▸ hr.lost hlost⟩
  case exit =>
    cases hstep
    exact ⟨by simp, rfl, hr.exited⟩
  case hangUp => cases hstep

end Step

theorem unchanged_step {c d : Client} {next next' : Farewell} {acts : List Act}
    (hstep : next.step c = (.next d next', acts)) :
    d.inflow = c.inflow ∧ d.writable = c.writable := by
  cases next <;> simp only [Farewell.step] at hstep
  case write | await =>
    split at hstep <;> cases hstep
    all_goals exact ⟨rfl, rfl⟩
  case hangUp => cases hstep
  all_goals
    cases hstep
    exact ⟨rfl, rfl⟩

theorem unchanged_expire {c d : Client} {next next' : Farewell}
    (hexpire : next.expire c = some (d, next')) :
    d.inflow = c.inflow ∧ d.writable = c.writable := by
  unfold Farewell.expire at hexpire
  split at hexpire
  · split at hexpire <;> cases hexpire
    exact ⟨rfl, rfl⟩
  · cases hexpire

theorem Course.step {c d : Client} {next next' : Farewell} {acts new : List Act}
    {heard : List Json} (hc : Course c heard next acts)
    (hstep : next.step c = (.next d next', new)) :
    d.features = c.features ∧ Course d heard next' (acts ++ new) := by
  cases hc with
  | talking talked ready =>
      cases hstep
      refine ⟨rfl, ?_⟩
      have hready : Ready c .unsubscribe [] heard :=
        ⟨ready.sound, ready.pending, nofun, rfl, ready.holds⟩
      have hcourse : Course c heard .unsubscribe (acts ++ disposals c.features ++ []) :=
        .parting nofun talked hready
      simpa [disposals] using hcourse
  | parting hnext talked ready =>
      obtain ⟨hnext', hfeatures, hready⟩ := ready.step hnext hstep
      refine ⟨hfeatures, ?_⟩
      rw [List.append_assoc, ← hfeatures]
      exact .parting hnext' talked hready

theorem Course.expire {c d : Client} {next next' : Farewell} {acts : List Act}
    {heard : List Json} (hc : Course c heard next acts)
    (hexpire : next.expire c = some (d, next')) :
    d.features = c.features ∧ Course d heard next' acts := by
  cases next with
  | await id =>
      simp only [Farewell.expire] at hexpire
      split at hexpire
      · cases hexpire
        refine ⟨rfl, ?_⟩
        cases hc with
        | parting hnext talked ready => exact .parting nofun talked (ready.withdrawn rfl)
      · cases hexpire
  | _ => cases hexpire

theorem Course.hungUp_notMem {c : Client} {heard : List Json} {next : Farewell} {acts : List Act}
    (hc : Course c heard next acts) : .hungUp ∉ acts := by
  intro hmem
  cases hc with
  | talking talked ready => exact nomatch talked.stays _ hmem
  | parting hnext talked ready =>
      rcases List.mem_append.mp hmem with hmem | hmem
      · rcases List.mem_append.mp hmem with hmem | hmem
        · exact nomatch talked.stays _ hmem
        · obtain ⟨feature, -, h⟩ := List.mem_map.mp hmem
          cases h
      · exact nomatch ready.stays _ hmem

end Farewell

/-- A client that has stopped in full: after all else its features were disposed of, the server was asked
to shut down and told to exit as far as it came to that, and the client hung up. -/
def Stopped (features : List Feature) (acts : List Act) : Prop :=
  ∃ earlier later, acts = earlier ++ disposals features ++ later ++ [.hungUp] ∧ Talked earlier ∧
    (∀ act ∈ later, act.isParting = false) ∧ said later <+: [.shutdown 2, .exit]

theorem Farewell.Course.stopped {c : Client} {acts : List Act} {heard : List Json}
    (hc : Farewell.Course c heard .hangUp acts) : Stopped c.features (acts ++ [.hungUp]) := by
  cases hc with
  | parting hnext talked ready =>
      exact ⟨_, _, rfl, talked, ready.stays, ready.said⟩

end ServerLink.Client
