import ServerLink.Proofs.Controller.Mirror
import ServerLink.Proofs.Document.Cycle

namespace ServerLink

theorem Client.noticesAmong_report_of_jammed (c : Client) (hwritable : c.writable = false)
    (uri language : String) (deed : Document.Deed) :
    noticesAmong (c.report uri language deed).2 = [] := by
  rw [acts_report]
  cases (c.documents.take uri language deed).2 with
  | none => rfl
  | some n => simp [write, hwritable, noticesAmong]

namespace Controller

theorem Begins.unnoticed {s t : Controller} {new : List Note} (hbegins : s.Begins new t) (k : Nat) :
    noticesOf k new = [] := by
  rw [noticesOf, (hbegins.silent k).acts]
  rfl

theorem noticesOf_clientNotes (k : Nat) (acts : List Client.Act) :
    noticesOf k (clientNotes k acts) = Client.noticesAmong acts := by
  rw [noticesOf, clientActs_clientNotes]

theorem noticesOf_append (k : Nat) (h new : List Note) :
    noticesOf k (h ++ new) = noticesOf k h ++ noticesOf k new := by
  simp [noticesOf]

theorem noticesAmong_handshake {c d : Client} {next next' : Client.Handshake}
    {acts : List Client.Act} (hstep : next.step c = (.next d next', acts)) :
    Client.noticesAmong acts = [] := by
  rcases Client.Handshake.said_step hstep with hsaid | ⟨id, offer, hsaid⟩ <;>
    rw [Client.noticesAmong, hsaid] <;> rfl

theorem noticesAmong_farewell {c d : Client} {next next' : Client.Farewell}
    {acts : List Client.Act} (hstep : next.step c = (.next d next', acts)) :
    Client.noticesAmong acts = [] := by
  rcases Client.Farewell.said_step hstep with hsaid | ⟨id, -, hsaid⟩ | ⟨-, hsaid⟩ <;>
    rw [Client.noticesAmong, hsaid] <;> rfl

/-- A move that is no report of the editor tells the server nothing of documents. -/
theorem Move.reports_or {s t : Controller} {new : List Note} (move : s.Move new t) :
    noticesOf s.attempts new = [] ∧ reportedTo s.attempts new = [] ∨
    ∃ target c event, s.phase = .active target c ∧
      (selector.covers event.url event.language = false ∧ new = [.reported s.attempts event] ∧
        t = s ∨
      selector.covers event.url event.language = true ∧
        new = .reported s.attempts event ::
          clientNotes s.attempts (c.report event.url.text event.language event.deed).2 ∧
        t = { s with
          phase := .active target (c.report event.url.text event.language event.deed).1 }) := by
  cases move with
  | began _ hbegins => exact .inl ⟨hbegins.unnoticed _, hbegins.unreported _⟩
  | partedBeginning _ hbegins =>
      refine .inl ⟨?_, by simp [hbegins.unreported]⟩
      rw [noticesOf_append, hbegins.unnoticed, noticesOf_clientNotes]
      rfl
  | shook _ hstep =>
      exact .inl ⟨by rw [noticesOf_clientNotes, noticesAmong_handshake hstep], by simp⟩
  | started _ hstep =>
      obtain ⟨rfl, rfl, rfl⟩ := handshake_done hstep
      refine .inl ⟨?_, by simp⟩
      rw [noticesOf_append, noticesOf_clientNotes]
      rfl
  | abandoned =>
      refine .inl ⟨?_, by simp⟩
      rw [noticesOf_append, noticesOf_clientNotes]
      rfl
  | parting _ hstep =>
      exact .inl ⟨by rw [noticesOf_clientNotes, noticesAmong_farewell hstep], by simp⟩
  | parted => exact .inl ⟨by rw [noticesOf_clientNotes]; rfl, by simp⟩
  | partedOffering =>
      refine .inl ⟨?_, by simp⟩
      rw [noticesOf_append, noticesOf_clientNotes]
      rfl
  | served _ hserved =>
      refine .inl ⟨?_, by simp⟩
      simp [noticesOf, Client.noticesAmong_of_aside hserved.aside]
  | toldFiles => exact .inl ⟨by simp [noticesOf, Client.noticesAmong_reportChanges], by simp⟩
  | passed event hphase hcovers => exact .inr ⟨_, _, event, hphase, .inl ⟨hcovers, rfl, rfl⟩⟩
  | told event hphase hcovers => exact .inr ⟨_, _, event, hphase, .inr ⟨hcovers, rfl, rfl⟩⟩
  | _ => exact .inl ⟨rfl, rfl⟩

theorem Move.unnoticed {s t : Controller} {new : List Note} (move : s.Move new t) {k : Nat}
    (hne : k ≠ s.attempts) : noticesOf k new = [] := by
  rw [noticesOf, (move.silent hne).acts]
  rfl

/-- While a client is active, it knows which documents are open, and the notices leave the same ones open as
long as the server takes what is written. -/
def Phase.Cycles (k : Nat) (h : List Note) : Phase → Prop
  | .active _ c =>
      Document.Agrees selector c.documents (reportedTo k h) ∧
      (c.writable = true → ∀ again uri, selector.Permits again uri (reportedTo k h) →
        Document.Stands again (selector.isOpenAfter (reportedTo k h) uri)
          (Document.Notice.about uri (noticesOf k h)))
  | _ => True

/-- A history in which the life of every document is in order on every connection. -/
structure Cycling (h : List Note) (s : Controller) : Prop where
  mirroring : Mirroring h s
  all : ∀ k again uri, selector.Permits again uri (reportedTo k h) →
    Document.InCycles again (Document.Notice.about uri (noticesOf k h))
  present : s.phase.Cycles s.attempts h

theorem cycling_init : Cycling [] {} where
  mirroring := ⟨fun _ _ => rfl, trivial⟩
  all _ again _ _ := Document.inCycles_nil again
  present := trivial

theorem Phase.Cycles.append {p : Phase} {k : Nat} {h new : List Note} (hp : p.Cycles k h)
    (hnotices : noticesOf k new = []) (hreported : reportedTo k new = []) :
    p.Cycles k (h ++ new) := by
  cases p with
  | active target c => simpa [Phase.Cycles, noticesOf_append, hnotices, hreported] using hp
  | _ => trivial

theorem Phase.Cycles.served {p : Phase} {k : Nat} {h : List Note} {c d : Client}
    {frames : List Json} {acts : List Client.Act} (hp : p.Cycles k h) (hheld : p.client? = some c)
    (hserved : c.Served frames acts d) : (p.setClient d).Cycles k h := by
  rcases Phase.eq_of_client? hheld with ⟨target, next, rfl⟩ | ⟨target, rfl⟩ | ⟨next, sequel, rfl⟩
  · trivial
  · obtain ⟨hagrees, hstands⟩ := hp
    exact ⟨hserved.kept.documents ▸ hagrees, fun hwritable => hstands (hserved.kept.writable hwritable)⟩
  · trivial

theorem cycles_started {k : Nat} {h : List Note} {target : Target} {c : Client}
    (hdocuments : c.documents = {}) (hnotices : noticesOf k h = []) (hreported : reportedTo k h = []) :
    (Phase.active target c).Cycles k h := by
  simp only [Phase.Cycles, hdocuments, hnotices, hreported]
  exact ⟨Document.agrees_nil selector, fun _ again _ _ => Document.stands_nil again⟩

theorem Cycling.quiet {h new : List Note} {s t : Controller} (hc : Coherent h s) (hs : Cycling h s)
    (move : s.Move new t) (hnotices : noticesOf s.attempts new = [])
    (hreported : reportedTo s.attempts new = []) : Cycling (h ++ new) t := by
  have hnotices' (k : Nat) : noticesOf k new = [] := by
    by_cases hk : k = s.attempts
    · exact hk ▸ hnotices
    · exact move.unnoticed hk
  have hreported' (k : Nat) : reportedTo k new = [] := by
    by_cases hk : k = s.attempts
    · exact hk ▸ hreported
    · exact move.unreported hk
  refine ⟨hs.mirroring.move hc move, ?_, ?_⟩
  · intro k again uri hpermits
    rw [reportedTo_append, hreported' k, List.append_nil] at hpermits
    simpa [noticesOf_append, hnotices' k] using hs.all k again uri hpermits
  · have hmirrors := hs.mirroring.present
    refine Phase.Cycles.append ?_ (hnotices' _) (hreported' _)
    cases move with
    | dismissed prompt =>
        rw [phase_dismiss, attempts_dismiss]
        exact hs.present
    | refused => exact hs.present
    | toldFiles => exact hs.present
    | passed => exact hs.present
    | began _ hbegins => cases hbegins <;> trivial
    | partedBeginning _ hbegins => cases hbegins <;> trivial
    | started hphase hstep =>
        obtain ⟨rfl, rfl, -⟩ := handshake_done hstep
        have hnone := hc.noticesOf_opening hphase
        rw [hphase] at hmirrors
        exact cycles_started hmirrors.2 hnone hmirrors.1
    | served hheld hserved => exact hs.present.served hheld hserved
    | told => simp at hreported
    | _ => trivial

theorem Cycling.reported {h new : List Note} {s t : Controller} (hc : Coherent h s)
    (hs : Cycling h s) (move : s.Move new t) {target : Target} {c d : Client}
    {event : Document.Event} (hphase : s.phase = .active target c)
    (ht : t = { s with phase := .active target d })
    (hreported : reportedTo s.attempts new = [event])
    (hnotices : c.writable = false → noticesOf s.attempts new = [])
    (hwritable : d.writable = c.writable)
    (hagrees : Document.Agrees selector c.documents (reportedTo s.attempts h) →
      Document.Agrees selector d.documents (reportedTo s.attempts h ++ [event]))
    (hstands : c.writable = true → ∀ again uri notices,
      Document.Agrees selector c.documents (reportedTo s.attempts h) →
      selector.Permits again uri (reportedTo s.attempts h ++ [event]) →
      Document.Stands again (selector.isOpenAfter (reportedTo s.attempts h) uri)
        (Document.Notice.about uri notices) →
      Document.Stands again (selector.isOpenAfter (reportedTo s.attempts h ++ [event]) uri)
        (Document.Notice.about uri (notices ++ noticesOf s.attempts new))) :
    Cycling (h ++ new) t := by
  have hpresent := hs.present
  rw [hphase] at hpresent
  obtain ⟨hagreed, hstood⟩ := hpresent
  have hstanding : d.writable = true → ∀ again uri,
      selector.Permits again uri (reportedTo s.attempts (h ++ new)) →
      Document.Stands again (selector.isOpenAfter (reportedTo s.attempts (h ++ new)) uri)
        (Document.Notice.about uri (noticesOf s.attempts (h ++ new))) := by
    intro hwrites again uri hpermits
    rw [reportedTo_append, hreported] at hpermits ⊢
    rw [noticesOf_append]
    rw [hwritable] at hwrites
    exact hstands hwrites again uri _ hagreed hpermits (hstood hwrites again uri hpermits.of_concat)
  refine ⟨hs.mirroring.move hc move, ?_, ?_⟩
  · intro k again uri hpermits
    by_cases hk : k = s.attempts
    · subst hk
      cases hwrites : c.writable with
      | true => exact (hstanding (hwritable.trans hwrites) again uri hpermits).inCycles
      | false =>
          rw [reportedTo_append, hreported] at hpermits
          rw [noticesOf_append, hnotices hwrites, List.append_nil]
          exact hs.all _ again uri hpermits.of_concat
    · rw [reportedTo_append, move.unreported hk, List.append_nil] at hpermits
      simpa [noticesOf_append, move.unnoticed hk] using hs.all k again uri hpermits
  · subst ht
    refine ⟨?_, hstanding⟩
    rw [reportedTo_append, hreported]
    exact hagrees hagreed

theorem Cycling.move {h new : List Note} {s t : Controller} (hc : Coherent h s) (hs : Cycling h s)
    (move : s.Move new t) : Cycling (h ++ new) t := by
  rcases move.reports_or with ⟨hnotices, hreported⟩ |
    ⟨target, c, event, hphase, ⟨hcovers, rfl, rfl⟩ | ⟨hcovers, rfl, rfl⟩⟩
  · exact hs.quiet hc move hnotices hreported
  · refine hs.reported hc move hphase (d := c) (by rw [← hphase]) (by simp) (fun _ => rfl) rfl
      (fun hagrees => hagrees.ignore hcovers) ?_
    intro _ again uri notices _ _ hstands
    rw [Document.Selector.isOpenAfter_concat_of_not_covers hcovers]
    have hnone : noticesOf t.attempts [.reported t.attempts event] = [] := rfl
    rwa [hnone, List.append_nil]
  · have htold : noticesOf s.attempts (.reported s.attempts event ::
        clientNotes s.attempts (c.report event.url.text event.language event.deed).2) =
        Client.noticesAmong (c.report event.url.text event.language event.deed).2 := by
      simp [noticesOf]
    refine hs.reported hc move hphase rfl (by simp) ?_ rfl
      (fun hagrees => hagrees.take hcovers) ?_
    · intro hwritable
      rw [htold]
      exact c.noticesAmong_report_of_jammed hwritable _ _ _
    · intro hwritable again uri notices hagrees hpermits hstands
      rw [htold, c.noticesAmong_report hwritable]
      exact hagrees.stands hcovers hpermits hstands

theorem cycling_history (inputs : List (Editor × Input)) :
    Cycling (history {} inputs) (run {} inputs).1 :=
  coherent_induction Cycling cycling_init (fun _ _ _ _ hc hs move => hs.move hc move) inputs

/-- On every connection of every run, the notices of each document are a beginning of: it is opened, then
changed, saved or opened again any number of times, then closed, and so on. If the editor never reports the
document to that connection as opened while it is open, then no opening follows another without a closing
between them. -/
theorem notices_in_cycles (inputs : List (Editor × Input)) (k : Nat) (uri : String) :
    Document.InCycles true (Document.Notice.about uri (noticesOf k (history {} inputs))) ∧
    (¬ selector.Reopened uri (reportedTo k (history {} inputs)) →
      Document.InCycles false (Document.Notice.about uri (noticesOf k (history {} inputs)))) := by
  have hall := (cycling_history inputs).all k
  exact ⟨hall true uri fun _ => rfl, fun hnot => hall false uri fun hreopened => absurd hreopened hnot⟩

theorem notices_in_cycles_session :
    ¬ selector.Reopened "file:///a.jimple" (reportedTo 1 (history {} session)) ∧
      Document.InCycles false
        (Document.Notice.about "file:///a.jimple" (noticesOf 1 (history {} session))) := by
  have hnever : ¬ selector.Reopened "file:///a.jimple" (reportedTo 1 (history {} session)) := by
    rintro ⟨before, e, after, hsplit, -, -, ⟨text, hopened⟩, -⟩
    have hdeeds : (reportedTo 1 (history {} session)).map (·.deed) = [.changed "a", .changed "b"] := rfl
    have hmem : e.deed ∈ (reportedTo 1 (history {} session)).map (·.deed) := by simp [hsplit]
    simp [hdeeds, hopened] at hmem
  exact ⟨hnever, (notices_in_cycles session 1 "file:///a.jimple").2 hnever⟩

/-- A run in which a document is reported as opened twice. -/
def opensTwice : List (Editor × Input) :=
  let url : Url := ⟨"file".toList, some ⟨[], [], none⟩, "/a.jimple".toList, none, none⟩
  let opened (text : String) : Input :=
    .perform (.handle (.document ⟨url, Product.language, .opened text⟩))
  session.take 9 ++ [opened "a", opened "a"].map (⟨{}, ⟨[]⟩, none, 0⟩, ·)

theorem second_opening_is_written :
    Document.Notice.about "file:///a.jimple" (noticesOf 1 (history {} opensTwice)) =
      [.opened "file:///a.jimple" Product.language 1 "a",
        .opened "file:///a.jimple" Product.language 1 "a"] ∧
    ¬ Document.InCycles false
      (Document.Notice.about "file:///a.jimple" (noticesOf 1 (history {} opensTwice))) := by
  have hnotices : Document.Notice.about "file:///a.jimple" (noticesOf 1 (history {} opensTwice)) =
      [.opened "file:///a.jimple" Product.language 1 "a",
        .opened "file:///a.jimple" Product.language 1 "a"] := rfl
  refine ⟨hnotices, ?_⟩
  rw [hnotices]
  exact Document.not_inCycles_of_second rfl

end Controller

end ServerLink
