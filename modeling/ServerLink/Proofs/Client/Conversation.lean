import ServerLink.Proofs.Controller.Move

namespace ServerLink.Client

def Act.said? : Act → Option Message
  | .wrote (.reply ..) => none
  | .wrote m => some m
  | _ => none

/-- The requests and notifications among acts, replies left aside. -/
def said (acts : List Act) : List Message :=
  acts.filterMap Act.said?

/-- Whether an act belongs to the end of a client. -/
def Act.isParting : Act → Bool
  | .called _ .dispose => true
  | .hungUp => true
  | _ => false

def Message.isReport : Message → Bool
  | .document _ => true
  | .watched _ => true
  | _ => false

/-- Among what was heard is an answer to a request, and it is no error. -/
def Granted (id : Nat) (heard : List Json) : Prop :=
  ∃ answer ∈ heard, Rpc.Incoming.ofFrame? answer = some (.response id answer) ∧
    answer.get? "error" = none

/-- An act that neither says anything nor belongs to the end. -/
def Act.IsAside (act : Act) : Prop :=
  act.said? = none ∧ act.isParting = false

@[simp] theorem said_nil : said [] = [] := rfl

@[simp] theorem said_hungUp : said [.hungUp] = [] := rfl

@[simp] theorem said_append (acts more : List Act) : said (acts ++ more) = said acts ++ said more :=
  List.filterMap_append

theorem said_of_aside {acts : List Act} (h : ∀ act ∈ acts, act.IsAside) : said acts = [] :=
  List.filterMap_eq_nil_iff.mpr fun act hact => (h act hact).1

theorem Granted.mono {id : Nat} {heard : List Json} (h : Granted id heard) (more : List Json) :
    Granted id (heard ++ more) := by
  obtain ⟨answer, hmem, hanswer⟩ := h
  exact ⟨answer, List.mem_append_left _ hmem, hanswer⟩

theorem body_of_response {frame : Json} {id : Nat} {body : Json}
    (h : Rpc.Incoming.ofFrame? frame = some (.response id body)) : body = frame := by
  unfold Rpc.Incoming.ofFrame? at h
  split at h
  · cases h
  · cases h
  · split at h
    · obtain ⟨n, -, hn⟩ := Option.map_eq_some_iff.mp h
      cases hn
      rfl
    · cases h
  · cases h

theorem aside_callTakers (c : Client) (method : String) (call : Feature.Call)
    (hcall : call ≠ .dispose) : ∀ act ∈ c.callTakers method call, act.IsAside := by
  intro act hact
  obtain ⟨feature, -, rfl⟩ := List.mem_map.mp hact
  refine ⟨rfl, ?_⟩
  cases call with
  | dispose => exact absurd rfl hcall
  | _ => rfl

theorem aside_answer (c : Client) (method : String) (params : Option Json) :
    ∀ act ∈ (c.answer method params).1, act.IsAside := by
  unfold answer
  intro act hact
  split at hact
  · obtain ⟨r, -, hr⟩ := List.mem_flatMap.mp hact
    exact c.aside_callTakers r.method (.register r) nofun act hr
  · split at hact
    · obtain ⟨r, -, hr⟩ := List.mem_flatMap.mp hact
      exact c.aside_callTakers r.method (.unregister r.id) nofun act hr
    · split at hact <;> cases hact

theorem aside_heed (c : Client) (method : String) (params : Option Json) :
    ∀ act ∈ c.heed method params, act.IsAside := by
  unfold heed
  intro act hact
  split at hact
  · obtain ⟨html, -, rfl⟩ := Option.map_eq_some_iff.mp (Option.mem_toList.mp hact)
    exact ⟨rfl, rfl⟩
  · obtain rfl := List.mem_singleton.mp hact
    exact ⟨rfl, rfl⟩
  · obtain ⟨line, -, rfl⟩ := Option.map_eq_some_iff.mp (Option.mem_toList.mp hact)
    exact ⟨rfl, rfl⟩

/-- Upon what the server sends nothing is said, and nothing ends. -/
theorem aside_dispatch (c : Client) (frame : Json) : ∀ act ∈ (c.dispatch frame).2, act.IsAside := by
  unfold dispatch
  intro act hact
  split at hact
  · cases hact
  · cases hact
  · rcases List.mem_append.mp hact with hact | hact
    · exact c.aside_answer _ _ act hact
    · unfold write at hact
      split at hact
      · obtain rfl := List.mem_singleton.mp hact
        exact ⟨rfl, rfl⟩
      · cases hact
  · exact c.aside_heed _ _ act hact

theorem Served.aside {c d : Client} {frames : List Json} {acts : List Act}
    (hserved : c.Served frames acts d) : ∀ act ∈ acts, act.IsAside := by
  cases hserved with
  | took frame => exact c.aside_dispatch frame
  | _ => nofun

/-- An act that says nothing but a report, and does not belong to the end. -/
def Act.IsReporting (act : Act) : Prop :=
  act.isParting = false ∧ ∀ m, act.said? = some m → m.isReport = true

theorem Act.IsAside.isReporting {act : Act} (h : act.IsAside) : act.IsReporting := by
  refine ⟨h.2, ?_⟩
  intro m hm
  rw [h.1] at hm
  cases hm

theorem isReport_of_mem_said {acts : List Act} (h : ∀ act ∈ acts, act.IsReporting) {m : Message}
    (hm : m ∈ said acts) : m.isReport = true := by
  obtain ⟨act, hact, hsaid⟩ := List.mem_filterMap.mp hm
  exact (h act hact).2 m hsaid

theorem isReporting_write (c : Client) {m : Message} (hreport : m.isReport = true) :
    ∀ act ∈ c.write m, act.IsReporting := by
  unfold write
  intro act hact
  split at hact
  · obtain rfl := List.mem_singleton.mp hact
    refine ⟨rfl, ?_⟩
    intro n hn
    cases m with
    | reply => cases hreport
    | _ =>
        cases hn
        exact hreport
  · cases hact

theorem acts_report (c : Client) (uri language : String) (deed : Document.Deed) :
    (c.report uri language deed).2 =
      ((c.documents.take uri language deed).2.map (c.write <| .document ·)).getD [] := rfl

theorem isReporting_report (c : Client) (uri language : String) (deed : Document.Deed) :
    ∀ act ∈ (c.report uri language deed).2, act.IsReporting := by
  rw [acts_report]
  cases (c.documents.take uri language deed).2 with
  | none => nofun
  | some notice => exact c.isReporting_write rfl

/-- What a client does not lose by what the server sends. -/
structure Kept (c d : Client) : Prop where
  options : d.options = c.options
  features : d.features = c.features
  nextId : d.nextId = c.nextId
  documents : d.documents = c.documents
  pending : ∀ id ∈ d.waiting.pending, id ∈ c.waiting.pending
  writable : d.writable = true → c.writable = true
  lost : c.inflow = .lost → d.inflow = .lost

theorem Kept.refl (c : Client) : Kept c c :=
  ⟨rfl, rfl, rfl, rfl, fun _ h => h, id, id⟩

theorem pending_complete {w : Rpc.Waiting} {id n : Nat} {body : Json}
    (h : n ∈ (w.complete id body).pending) : n ∈ w.pending := by
  unfold Rpc.Waiting.complete at h
  split at h
  · exact (List.mem_filter.mp h).1
  · exact h

theorem kept_dispatch (c : Client) (frame : Json) : Kept c (c.dispatch frame).1 := by
  unfold dispatch
  split
  · exact .refl c
  · exact { Kept.refl c with pending := fun _ => pending_complete }
  · exact .refl c
  · exact .refl c

theorem Served.kept {c d : Client} {frames : List Json} {acts : List Act}
    (hserved : c.Served frames acts d) : Kept c d := by
  cases hserved with
  | took frame => exact c.kept_dispatch frame
  | ended hrunning => exact { Kept.refl c with lost := fun h => by rw [h] at hrunning; cases hrunning }
  | wound =>
      unfold wind
      split
      · rename_i hended
        exact { Kept.refl c with
          pending := nofun
          lost := fun h => by rw [h] at hended; cases hended }
      · exact { Kept.refl c with lost := fun _ => rfl }
      · exact .refl c
  | jammed => exact { Kept.refl c with writable := nofun }

theorem Served.isConnected {c d : Client} {frames : List Json} {acts : List Act}
    (hserved : c.Served frames acts d) (h : c.isConnected = false) : d.isConnected = false := by
  have hlost : c.inflow = .lost := by simpa [Client.isConnected] using h
  simp [Client.isConnected, hserved.kept.lost hlost]

/-- The answers that are kept have been heard, and their requests wait no longer. -/
structure Sound (c : Client) (heard : List Json) : Prop where
  heard : ∀ id body, (id, body) ∈ c.waiting.delivered →
    body ∈ heard ∧ Rpc.Incoming.ofFrame? body = some (.response id body)
  settled : ∀ id body, (id, body) ∈ c.waiting.delivered → id ∉ c.waiting.pending
  entered : ∀ id body, (id, body) ∈ c.waiting.delivered → id < c.nextId
  waiting : ∀ id ∈ c.waiting.pending, id < c.nextId

theorem sound_fresh (options : Options) (features : List Feature) :
    Sound { options, features } [] :=
  ⟨nofun, nofun, nofun, nofun⟩

theorem Sound.of_pending {c d : Client} {heard : List Json} (hs : c.Sound heard)
    (hdelivered : d.waiting.delivered = c.waiting.delivered) (hnext : d.nextId = c.nextId)
    (hpending : ∀ id ∈ d.waiting.pending, id ∈ c.waiting.pending) : d.Sound heard := by
  constructor
  · intro id body h
    exact hs.heard id body (hdelivered ▸ h)
  · intro id body h hid
    exact hs.settled id body (hdelivered ▸ h) (hpending id hid)
  · intro id body h
    rw [hnext]
    exact hs.entered id body (hdelivered ▸ h)
  · intro id hid
    rw [hnext]
    exact hs.waiting id (hpending id hid)

theorem Sound.mono {c : Client} {heard : List Json} (hs : c.Sound heard) (more : List Json) :
    c.Sound (heard ++ more) :=
  { hs with
    heard := fun id body h =>
      ⟨List.mem_append_left _ (hs.heard id body h).1, (hs.heard id body h).2⟩ }

theorem Sound.complete {c : Client} {heard : List Json} {frame : Json} {id : Nat} {body : Json}
    (hs : c.Sound heard) (hframe : Rpc.Incoming.ofFrame? frame = some (.response id body)) :
    Sound { c with waiting := c.waiting.complete id body } (heard ++ [frame]) := by
  obtain rfl := body_of_response hframe
  unfold Rpc.Waiting.complete
  split
  · rename_i hpending
    constructor
    · intro n b h
      rcases List.mem_cons.mp h with h | h
      · cases h
        exact ⟨List.mem_append_right _ (List.mem_singleton.mpr rfl), hframe⟩
      · exact (hs.mono [body]).heard n b h
    · intro n b h hn
      obtain ⟨hn, hne⟩ := List.mem_filter.mp hn
      rcases List.mem_cons.mp h with h | h
      · cases h
        simp at hne
      · exact hs.settled n b h hn
    · intro n b h
      rcases List.mem_cons.mp h with h | h
      · cases h
        exact hs.waiting _ hpending
      · exact hs.entered n b h
    · intro n hn
      exact hs.waiting n (List.mem_filter.mp hn).1
  · exact hs.mono [body]

theorem Sound.dispatch {c : Client} {heard : List Json} (hs : c.Sound heard) (frame : Json) :
    (c.dispatch frame).1.Sound (heard ++ [frame]) := by
  unfold Client.dispatch
  split
  · exact hs.mono _
  · rename_i hframe
    exact hs.complete hframe
  · exact hs.mono _
  · exact hs.mono _

theorem Sound.served {c d : Client} {heard frames : List Json} {acts : List Act}
    (hs : c.Sound heard) (hserved : c.Served frames acts d) : d.Sound (heard ++ frames) := by
  have hkept := hserved.kept
  cases hserved with
  | took frame => exact hs.dispatch frame
  | ended => simpa using hs.of_pending (d := { c with inflow := .ended }) rfl rfl fun _ h => h
  | wound =>
      have hdelivered : c.wind.waiting.delivered = c.waiting.delivered := by
        unfold wind
        split <;> rfl
      simpa using hs.of_pending hdelivered hkept.nextId hkept.pending
  | jammed => simpa using hs.of_pending (d := c.jam) rfl rfl fun _ h => h

theorem Sound.enter {c : Client} {heard : List Json} (hs : c.Sound heard) :
    c.enter.2.Sound heard := by
  refine ⟨hs.heard, ?_, ?_, ?_⟩
  · intro id body h hid
    have hlt := hs.entered id body h
    rcases List.mem_cons.mp hid with rfl | hid
    · exact Nat.lt_irrefl _ hlt
    · exact hs.settled id body h hid
  · intro id body h
    exact Nat.lt_succ_of_lt (hs.entered id body h)
  · intro id hid
    rcases List.mem_cons.mp hid with rfl | hid
    · exact Nat.lt_succ_self _
    · exact Nat.lt_succ_of_lt (hs.waiting id hid)

theorem Sound.withdraw {c : Client} {heard : List Json} (hs : c.Sound heard) (id : Nat) :
    (c.withdraw id).Sound heard :=
  hs.of_pending rfl rfl fun _ h => (List.mem_filter.mp h).1

theorem mem_delivered_of_answered {w : Rpc.Waiting} {id : Nat} {body : Json}
    (h : w.state id = .answered body) : (id, body) ∈ w.delivered := by
  unfold Rpc.Waiting.state at h
  split at h
  · rename_i n b hfind
    cases h
    have hn : n = id := by simpa using List.find?_some hfind
    exact hn ▸ List.mem_of_find?_eq_some hfind
  · split at h <;> cases h

theorem notMem_pending_of_lost {w : Rpc.Waiting} {id : Nat} (h : w.state id = .lost) :
    id ∉ w.pending := by
  unfold Rpc.Waiting.state at h
  split at h
  · cases h
  · split at h
    · cases h
    · assumption

end ServerLink.Client
