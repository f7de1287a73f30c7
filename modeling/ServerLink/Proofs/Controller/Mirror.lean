import ServerLink.Proofs.Controller.Coherence
import ServerLink.Proofs.Document.Frame

namespace ServerLink

namespace Client

def noticesAmong (acts : List Act) : List Document.Notice :=
  (said acts).filterMap Message.notice?

@[simp] theorem noticesAmong_append (acts more : List Act) :
    noticesAmong (acts ++ more) = noticesAmong acts ++ noticesAmong more := by
  simp [noticesAmong]

theorem noticesAmong_of_aside {acts : List Act} (h : ∀ act ∈ acts, act.IsAside) :
    noticesAmong acts = [] := by
  rw [noticesAmong, said_of_aside h]
  rfl

/-- What is written tells a server of the documents what the notices do, and nothing else. -/
theorem filterMap_written (acts : List Act) :
    (written acts).filterMap Document.Notice.ofFrame? = noticesAmong acts := by
  rw [written, noticesAmong, said, List.filterMap_filterMap, List.filterMap_filterMap]
  refine List.filterMap_congr fun act _ => ?_
  cases act with
  | wrote m =>
      refine (ofFrame?_toJson m).trans ?_
      cases m <;> rfl
  | _ => rfl

theorem exists_message_of_mem_written {acts : List Act} {frame : Json} (h : frame ∈ written acts) :
    ∃ m : Message, m.toJson = frame := by
  obtain ⟨act, -, hact⟩ := List.mem_filterMap.mp h
  cases act with
  | wrote m => exact ⟨m, Option.some.inj hact⟩
  | _ => cases hact

theorem documents_report (c : Client) (uri language : String) (deed : Document.Deed) :
    (c.report uri language deed).1.documents = (c.documents.take uri language deed).1 := rfl

theorem noticesAmong_report (c : Client) (hwritable : c.writable = true) (uri language : String)
    (deed : Document.Deed) : noticesAmong (c.report uri language deed).2 =
      (c.documents.take uri language deed).2.toList := by
  have hreport : (c.report uri language deed).2 =
      ((c.documents.take uri language deed).2.map (c.write <| .document ·)).getD [] := rfl
  rw [hreport]
  cases (c.documents.take uri language deed).2 with
  | none => rfl
  | some n => simp [write, hwritable, noticesAmong, said, Act.said?, Message.notice?]

theorem noticesAmong_reportChanges (c : Client) (changes : List (String × Document.ChangeKind)) :
    noticesAmong (c.reportChanges changes) = [] := by
  unfold reportChanges write
  split <;> rfl

end Client

namespace Controller

/-- The notices of documents that the client of an attempt has written. -/
def noticesOf (attempt : Nat) (h : List Note) : List Document.Notice :=
  Client.noticesAmong (clientActs attempt h)

/-- The frames that the client of an attempt has written. -/
def framesOf (attempt : Nat) (h : List Note) : List Json :=
  Client.written (clientActs attempt h)

theorem filterMap_framesOf (k : Nat) (h : List Note) :
    (framesOf k h).filterMap Document.Notice.ofFrame? = noticesOf k h :=
  Client.filterMap_written _

theorem Begins.unreported {s t : Controller} {new : List Note} (hbegins : s.Begins new t) (k : Nat) :
    reportedTo k new = [] := by
  cases hbegins <;> rfl

theorem Move.unreported {s t : Controller} {new : List Note} (move : s.Move new t) {k : Nat}
    (hne : k ≠ s.attempts) : reportedTo k new = [] := by
  cases move with
  | began _ hbegins => exact hbegins.unreported k
  | partedBeginning _ hbegins => simp [hbegins.unreported k]
  | passed => simp [reportedTo_reported_of_ne hne.symm]
  | told => simp [reportedTo_reported_of_ne hne.symm]
  | connected => rfl
  | _ => simp

/-- What the phase says of the mirror that the server of the last attempt has. -/
def Phase.Mirrors (k : Nat) (h : List Note) : Phase → Prop
  | .connecting .. => reportedTo k h = []
  | .opening _ c _ => reportedTo k h = [] ∧ c.documents = {}
  | .active _ c =>
      c.writable = true → selector.VersionsSuffice (reportedTo k h) →
        Document.Mirrors selector c.documents (noticesOf k h) (reportedTo k h)
  | _ => True

/-- A history throughout which the mirrors of the documents are faithful. -/
structure Mirroring (h : List Note) (s : Controller) : Prop where
  future : ∀ k, s.attempts < k → reportedTo k h = []
  present : s.phase.Mirrors s.attempts h

theorem Phase.Mirrors.append {p : Phase} {k : Nat} {h new : List Note} (hp : p.Mirrors k h)
    (hreported : reportedTo k new = []) (hnotices : noticesOf k new = []) :
    p.Mirrors k (h ++ new) := by
  have hreports : reportedTo k (h ++ new) = reportedTo k h := by simp [hreported]
  have hnoted : noticesOf k (h ++ new) = noticesOf k h := by
    simp only [noticesOf] at hnotices
    simp [noticesOf, hnotices]
  cases p with
  | idle => trivial
  | closing => trivial
  | _ =>
      simp only [Phase.Mirrors, hreports, hnoted]
      exact hp

theorem Begins.mirrors {s t : Controller} {new h : List Note} (hbegins : s.Begins new t)
    (hfuture : ∀ k, s.attempts < k → reportedTo k h = []) : t.phase.Mirrors t.attempts (h ++ new) := by
  cases hbegins with
  | disabled => trivial
  | attempted =>
      change reportedTo _ _ = []
      simp [hfuture _ (Nat.lt_succ_self _)]

/-- A client that has just become active has not written a notice yet. -/
theorem Coherent.noticesOf_opening {h : List Note} {s : Controller} (hc : Coherent h s)
    {target : Target} {c : Client} {next : Client.Handshake}
    (hphase : s.phase = .opening target c next) : noticesOf s.attempts h = [] := by
  obtain ⟨-, hcourse⟩ := hc.describes hphase
  rcases hcourse.said_or with hsaid | ⟨offer, hsaid⟩ <;>
    simp [noticesOf, Client.noticesAmong, hsaid, Client.Message.notice?]

theorem Mirroring.served {h : List Note} {s : Controller} (hm : Mirroring h s) {c d : Client}
    {frames : List Json} {acts : List Client.Act} (hheld : s.phase.client? = some c)
    (hserved : c.Served frames acts d) :
    (s.phase.setClient d).Mirrors s.attempts
      (h ++ (frames.map (.heard s.attempts) ++ clientNotes s.attempts acts)) := by
  have hall : s.phase.Mirrors s.attempts
      (h ++ (frames.map (.heard s.attempts) ++ clientNotes s.attempts acts)) :=
    hm.present.append (by simp) (by simp [noticesOf, Client.noticesAmong_of_aside hserved.aside])
  have hdocuments := hserved.kept.documents
  rcases Phase.eq_of_client? hheld with
    ⟨target, next, hphase⟩ | ⟨target, hphase⟩ | ⟨next, sequel, hphase⟩
  · rw [hphase] at hall ⊢
    exact ⟨hall.1, hdocuments.trans hall.2⟩
  · rw [hphase] at hall ⊢
    intro hwritable hsuffice
    rw [hdocuments]
    exact hall (hserved.kept.writable hwritable) hsuffice
  · rw [hphase]
    trivial

theorem Mirroring.move {h new : List Note} {s t : Controller} (hm : Mirroring h s)
    (hc : Coherent h s) (move : s.Move new t) : Mirroring (h ++ new) t where
  future k hk := by
    have hlt := Nat.lt_of_le_of_lt move.attempts_le hk
    simp [hm.future k hlt, move.unreported (Nat.ne_of_gt hlt)]
  present := by
    have hpresent := hm.present
    cases move with
    | refused hphase => exact hpresent.append rfl rfl
    | dismissed prompt hready =>
        rw [phase_dismiss, attempts_dismiss]
        exact hpresent.append rfl rfl
    | began hphase hbegins => exact hbegins.mirrors hm.future
    | connected hphase =>
        rw [hphase] at hpresent
        change reportedTo s.attempts h = [] at hpresent
        exact ⟨by simp [hpresent], rfl⟩
    | shook hphase hstep =>
        rw [hphase] at hpresent
        obtain ⟨-, hdocuments, -⟩ := Client.Handshake.unchanged_step hstep
        exact ⟨by simpa using hpresent.1, hdocuments.trans hpresent.2⟩
    | started hphase hstep =>
        have hnotices := hc.noticesOf_opening hphase
        obtain ⟨rfl, rfl, rfl⟩ := handshake_done hstep
        rw [hphase] at hpresent
        obtain ⟨hreported, hdocuments⟩ := hpresent
        have hwritten : noticesOf s.attempts (h ++ (clientNotes s.attempts [.wrote .introduced] ++
            [.did (.concluded .started)])) = [] := by
          have hsilent := silent_did s.attempts (.concluded .started) rfl
          simp only [noticesOf] at hnotices
          simp [noticesOf, hnotices, hsilent.acts]
          rfl
        intro hwritable hsuffice
        rw [hwritten, hdocuments]
        simpa [hreported] using Document.mirrors_nil selector
    | partedBeginning hphase hbegins =>
        rw [← List.append_assoc]
        exact hbegins.mirrors fun k hk => by simp [hm.future k hk]
    | served hheld hserved => exact hm.served hheld hserved
    | passed event hphase hcovers =>
        rw [hphase] at hpresent ⊢
        intro hwritable hsuffice
        have hsplit : reportedTo s.attempts (h ++ [.reported s.attempts event]) =
            reportedTo s.attempts h ++ [event] := by simp
        rw [hsplit] at hsuffice ⊢
        have hmirrors := (hpresent hwritable hsuffice.of_concat).ignore hcovers
        simpa [noticesOf] using hmirrors
    | @told target c event hphase hcovers =>
        rw [hphase] at hpresent
        intro hwritable hsuffice
        have hsplit : reportedTo s.attempts (h ++ .reported s.attempts event :: clientNotes s.attempts
            (c.report event.url.text event.language event.deed).2) =
            reportedTo s.attempts h ++ [event] := by simp
        rw [hsplit] at hsuffice ⊢
        have hmirrors := (hpresent hwritable hsuffice.of_concat).take hsuffice hcovers
        have htold := c.noticesAmong_report hwritable event.url.text event.language event.deed
        rw [← htold] at hmirrors
        simpa [noticesOf, Client.documents_report] using hmirrors
    | toldFiles changes hphase =>
        exact hpresent.append (by simp) (by simp [noticesOf, Client.noticesAmong_reportChanges])
    | _ => trivial

theorem mirroring_history (inputs : List (Editor × Input)) :
    Mirroring (history {} inputs) (run {} inputs).1 :=
  coherent_induction Mirroring ⟨fun _ _ => rfl, trivial⟩
    (fun _ _ _ _ hc hm move => hm.move hc move) inputs

/-- While a client is active and its server takes what is written, the mirror that the server gets by
replaying the frames has the selected documents that the last event left open, each with the text of that
event; every frame that tells of a document fits what the server knew before it; the client knows the same
documents to be open, each at the version that was last sent; and no frame with a method of the documents is
such that the server cannot read it. -/
theorem mirror_faithful {inputs : List (Editor × Input)} {c : Client}
    (hactive : (run {} inputs).1.active? = some c) (hwritable : c.writable = true)
    (hsuffice : selector.VersionsSuffice
      (reportedTo (run {} inputs).1.attempts (history {} inputs))) :
    let frames := framesOf (run {} inputs).1.attempts (history {} inputs)
    (∀ uri, (Document.Mirror.ofFrames frames uri).map Prod.snd =
      selector.textAfter (reportedTo (run {} inputs).1.attempts (history {} inputs)) uri) ∧
    (∀ before frame after n, frames = before ++ frame :: after →
      Document.Notice.ofFrame? frame = some n → n.Fits (Document.Mirror.ofFrames before)) ∧
    (∀ uri, c.documents.version? uri = (Document.Mirror.ofFrames frames uri).map Prod.fst) ∧
    ∀ frame ∈ frames, ∀ method, Rpc.method? frame = some method →
      "textDocument/".toList <+: method.toList → (Document.Notice.ofFrame? frame).isSome := by
  intro frames
  have hpresent := (mirroring_history inputs).present
  cases hphase : (run {} inputs).1.phase with
  | active target d =>
      obtain rfl : d = c := by simpa [active?, hphase] using hactive
      rw [hphase] at hpresent
      have hmirrors := hpresent hwritable hsuffice
      rw [← filterMap_framesOf] at hmirrors
      refine ⟨hmirrors.texts, ?_, hmirrors.versions, ?_⟩
      · intro before frame after n hframes hread
        refine hmirrors.fits _ n (after.filterMap Document.Notice.ofFrame?) ?_
        rw [show framesOf _ _ = before ++ frame :: after from hframes, List.filterMap_append,
          List.filterMap_cons_some hread]
      · intro frame hframe method hmethod hdocument
        obtain ⟨m, rfl⟩ := Client.exists_message_of_mem_written hframe
        exact Client.isSome_ofFrame?_toJson hmethod hdocument
  | _ => simp [active?, hphase] at hactive

/-- A run in which a client is started and a document is changed twice. -/
def session : List (Editor × Input) :=
  let url : Url := ⟨"file".toList, some ⟨[], [], none⟩, "/a.jimple".toList, none, none⟩
  let change (text : String) : Input :=
    .perform (.handle (.document ⟨url, Product.language, .changed text⟩))
  let answer : Json := .ofFields [("id", .nat 1), ("result", .null)]
  [.perform .start, .reached .established, .proceed, .proceed, .proceed, .arrive 1 (.frame answer),
    .proceed, .proceed, .proceed, change "a", change "b"].map (⟨{}, ⟨[]⟩, none, 0⟩, ·)

theorem mirror_faithful_session :
    ∃ c, (run {} session).1.active? = some c ∧ c.writable = true ∧
      selector.VersionsSuffice (reportedTo 1 (history {} session)) ∧
      c.documents.version? "file:///a.jimple" = some 2 ∧
      ∀ uri, (Document.Mirror.ofFrames (framesOf 1 (history {} session)) uri).map Prod.snd =
        selector.textAfter (reportedTo 1 (history {} session)) uri := by
  have hsuffice : selector.VersionsSuffice (reportedTo 1 (history {} session)) :=
    selector.versionsSuffice_of_length (by decide)
  have hactive : (run {} session).1.active? = some _ := rfl
  exact ⟨_, hactive, rfl, hsuffice, rfl, (mirror_faithful hactive rfl hsuffice).1⟩

end Controller

end ServerLink
