import ServerLink.Proofs.Controller.History

/-!
The moves of the controller. Each says what one step may do, under which condition, and what is noted of
it; a step makes at most one of them. A run is a chain of moves.
-/

namespace ServerLink

/-- What the traffic on its connection does to a client: the values it takes and what it does upon them. -/
inductive Client.Served (c : Client) : List Json → List Client.Act → Client → Prop where
  | took (frame : Json) (hrunning : c.inflow = .running) :
      Served c [frame] (c.dispatch frame).2 (c.dispatch frame).1
  | ended (hrunning : c.inflow = .running) : Served c [] [] { c with inflow := .ended }
  | wound : Served c [] [] c.wind
  | jammed : Served c [] [] c.jam

namespace Controller

/-- What a start does when no client is held. -/
inductive Begins (s : Controller) : List Note → Controller → Prop where
  | disabled (e : Editor) (hnone : Target.ofEditor? e = none) :
      Begins s [.did (.concluded .disabled)] { s with phase := .idle, outstanding := none }
  | attempted (e : Editor) (target : Target) (htarget : Target.ofEditor? e = some target) :
      Begins s [.did (.attempted (s.attempts + 1) target)]
        { s with
          phase := .connecting target (optionsFor e)
          attempts := s.attempts + 1
          outstanding := none }

def offered (s : Controller) : Controller :=
  { s with phase := .idle, nextPrompt := s.nextPrompt + 1, outstanding := some s.nextPrompt }

/-- What a step can do, and what is noted of it. -/
inductive Move (s : Controller) : List Note → Controller → Prop where
  | refused {target : Target} {c : Client} (hphase : s.phase = .active target c) :
      Move s [.did (.concluded .alreadyActive)] s
  | dismissed (prompt : Nat) (hready : s.isReady = true) :
      Move s [.did .openedSettings] (s.dismiss prompt)
  | began {notes : List Note} {t : Controller} (hphase : s.phase = .idle)
      (hbegins : s.Begins notes t) : Move s notes t
  | connected {target : Target} {options : Client.Options}
      (hphase : s.phase = .connecting target options) :
      Move s [.connected s.attempts]
        { s with phase := .opening target { options, features } .prepare }
  | unreachable {address : Transport.LocalPort} {options : Client.Options}
      (hphase : s.phase = .connecting (.port address) options) :
      Move s [.did (.offered (.ofId s.nextPrompt)), .did (.concluded (.unreachable s.nextPrompt))]
        s.offered
  | unlaunched {launch : Transport.Launch} {options : Client.Options} (error : Client.Error)
      (hphase : s.phase = .connecting (.command launch) options) :
      Move s [.did (.concluded (.failed error))] { s with phase := .idle }
  | shook {target : Target} {c d : Client} {next next' : Client.Handshake}
      {acts : List Client.Act} (hphase : s.phase = .opening target c next)
      (hstep : next.step c = (.next d next', acts)) :
      Move s (clientNotes s.attempts acts) { s with phase := .opening target d next' }
  | started {target : Target} {c d : Client} {next : Client.Handshake} {acts : List Client.Act}
      (hphase : s.phase = .opening target c next) (hstep : next.step c = (.done d, acts)) :
      Move s (clientNotes s.attempts acts ++ [.did (.concluded .started)])
        { s with phase := .active target d }
  | abandoned {target : Target} {c : Client} {next : Client.Handshake} (error : Client.Error)
      (hphase : s.phase = .opening target c next)
      (hcause : next.step c = (.failed error, []) ∨ next.expire c = some error) :
      Move s (clientNotes s.attempts [.hungUp] ++ [.did (.concluded (.failed error))])
        { s with phase := .idle }
  | closed {target : Target} {c : Client} (sequel : Sequel)
      (hphase : s.phase = .active target c)
      (hsequel : sequel = .offer → c.isConnected = false ∧ target.isPort = true) :
      Move s [] { s with phase := .closing c .dispose sequel }
  | parting {c d : Client} {next next' : Client.Farewell} {sequel : Sequel}
      {acts : List Client.Act} (hphase : s.phase = .closing c next sequel)
      (hstep : next.step c = (.next d next', acts)) :
      Move s (clientNotes s.attempts acts) { s with phase := .closing d next' sequel }
  | gaveUp {c d : Client} {next next' : Client.Farewell} {sequel : Sequel}
      (hphase : s.phase = .closing c next sequel) (hexpire : next.expire c = some (d, next')) :
      Move s [] { s with phase := .closing d next' sequel }
  | parted {c : Client} (hphase : s.phase = .closing c .hangUp .rest) :
      Move s (clientNotes s.attempts [.hungUp]) { s with phase := .idle }
  | partedOffering {c : Client} (hphase : s.phase = .closing c .hangUp .offer) :
      Move s (clientNotes s.attempts [.hungUp] ++ [.did (.offered (.ofId s.nextPrompt))]) s.offered
  | partedBeginning {c : Client} {notes : List Note} {t : Controller}
      (hphase : s.phase = .closing c .hangUp .start) (hbegins : s.Begins notes t) :
      Move s (clientNotes s.attempts [.hungUp] ++ notes) t
  | served {c d : Client} {frames : List Json} {acts : List Client.Act}
      (hheld : s.phase.client? = some c) (hserved : c.Served frames acts d) :
      Move s (frames.map (.heard s.attempts) ++ clientNotes s.attempts acts)
        { s with phase := s.phase.setClient d }
  | passed {target : Target} {c : Client} (event : Document.Event)
      (hphase : s.phase = .active target c)
      (hcovers : selector.covers event.url event.language = false) :
      Move s [.reported s.attempts event] s
  | told {target : Target} {c : Client} (event : Document.Event)
      (hphase : s.phase = .active target c)
      (hcovers : selector.covers event.url event.language = true) :
      Move s (.reported s.attempts event ::
          clientNotes s.attempts (c.report event.url.text event.language event.deed).2)
        { s with
          phase := .active target (c.report event.url.text event.language event.deed).1 }
  | toldFiles {target : Target} {c : Client} (changes : List (String × Document.ChangeKind))
      (hphase : s.phase = .active target c) :
      Move s (clientNotes s.attempts (c.reportChanges changes)) s

/-- What a step does: one move at most. -/
inductive Moved (s : Controller) : List Note → Controller → Prop where
  | not : Moved s [] s
  | once {new : List Note} {t : Controller} (move : s.Move new t) : Moved s new t

inductive Moves (s : Controller) : List Note → Controller → Prop where
  | none : Moves s [] s
  | snoc {h new : List Note} {t u : Controller} (before : Moves s h t) (move : t.Move new u) :
      Moves s (h ++ new) u

namespace Moves

theorem single {s t : Controller} {new : List Note} (move : s.Move new t) : s.Moves new t := by
  simpa using Moves.none.snoc move

/-- What every move keeps is kept by any number of them. -/
theorem keeps {P : Controller → Prop}
    (hmove : ∀ {s t : Controller} {new : List Note}, P s → s.Move new t → P t)
    {s t : Controller} {h : List Note} (moves : s.Moves h t) (hs : P s) : P t := by
  induction moves with
  | none => exact hs
  | snoc _ move ih => exact hmove ih move

theorem trans {s t u : Controller} {h new : List Note} (first : s.Moves h t)
    (second : t.Moves new u) : s.Moves (h ++ new) u := by
  induction second with
  | none => simpa using first
  | snoc _ move ih =>
      rw [← List.append_assoc]
      exact ih.snoc move

end Moves

theorem Moved.moves {s t : Controller} {new : List Note} (moved : s.Moved new t) :
    s.Moves new t := by
  cases moved with
  | not => exact .none
  | once move => exact .single move

@[simp] theorem phase_dismiss (s : Controller) (prompt : Nat) :
    (s.dismiss prompt).phase = s.phase := by
  unfold dismiss
  split <;> rfl

@[simp] theorem attempts_dismiss (s : Controller) (prompt : Nat) :
    (s.dismiss prompt).attempts = s.attempts := by
  unfold dismiss
  split <;> rfl

theorem Begins.attempts_le {s t : Controller} {new : List Note} (hbegins : s.Begins new t) :
    s.attempts ≤ t.attempts := by
  cases hbegins with
  | disabled => exact Nat.le_refl _
  | attempted => exact Nat.le_succ _

theorem Move.attempts_le {s t : Controller} {new : List Note} (move : s.Move new t) :
    s.attempts ≤ t.attempts := by
  cases move with
  | dismissed prompt => simp
  | began _ hbegins => exact hbegins.attempts_le
  | partedBeginning _ hbegins => exact hbegins.attempts_le
  | _ => exact Nat.le_refl _

theorem handshake_acts_of_waits {c : Client} {next : Client.Handshake} {acts : List Client.Act}
    (hstep : next.step c = (.waits, acts)) : acts = [] := by
  cases next <;> simp only [Client.Handshake.step] at hstep
  case prepare => split at hstep <;> cases hstep
  case enter => cases hstep
  case write => split at hstep <;> cases hstep
  case await =>
    split at hstep <;> cases hstep
    rfl
  case settle => split at hstep <;> cases hstep
  case conclude => split at hstep <;> cases hstep

/-- A handshake fails without another act, and never for want of a listener. -/
theorem handshake_failed {c : Client} {next : Client.Handshake} {error : Client.Error}
    {acts : List Client.Act} (hstep : next.step c = (.failed error, acts)) :
    acts = [] ∧ ∀ address, error ≠ .unreachable address := by
  cases next <;> simp only [Client.Handshake.step] at hstep
  case prepare =>
    split at hstep
    · rename_i error' hroot
      cases hstep
      refine ⟨rfl, ?_⟩
      intro address h
      subst h
      unfold Client.Handshake.rootUri? at hroot
      split at hroot
      · cases hroot
      · split at hroot <;> cases hroot
    · cases hstep
  case enter => cases hstep
  case write =>
    split at hstep <;> cases hstep
    exact ⟨rfl, nofun⟩
  case await =>
    split at hstep <;> cases hstep
    exact ⟨rfl, nofun⟩
  case settle =>
    split at hstep <;> cases hstep
    exact ⟨rfl, nofun⟩
  case conclude =>
    split at hstep <;> cases hstep
    exact ⟨rfl, nofun⟩

theorem handshake_expire {c : Client} {next : Client.Handshake} {error : Client.Error}
    (hexpire : next.expire c = some error) : ∀ address, error ≠ .unreachable address := by
  unfold Client.Handshake.expire at hexpire
  split at hexpire
  · split at hexpire
    · cases hexpire
      nofun
    · cases hexpire
  · cases hexpire

theorem handshake_done {c d : Client} {next : Client.Handshake} {acts : List Client.Act}
    (hstep : next.step c = (.done d, acts)) :
    next = .conclude ∧ d = c ∧ acts = [.wrote .introduced] := by
  cases next <;> simp only [Client.Handshake.step] at hstep
  case enter => cases hstep
  case conclude =>
    split at hstep <;> cases hstep
    exact ⟨rfl, rfl, rfl⟩
  all_goals split at hstep <;> cases hstep

theorem farewell_acts_of_waits {c : Client} {next : Client.Farewell} {acts : List Client.Act}
    (hstep : next.step c = (.waits, acts)) : acts = [] := by
  cases next <;> simp only [Client.Farewell.step] at hstep
  case write => split at hstep <;> cases hstep
  case await =>
    split at hstep <;> cases hstep
    rfl
  all_goals cases hstep

theorem farewell_done {c : Client} {next : Client.Farewell} {acts : List Client.Act}
    (hstep : next.step c = (.done, acts)) : next = .hangUp ∧ acts = [.hungUp] := by
  cases next <;> simp only [Client.Farewell.step] at hstep
  case write => split at hstep <;> cases hstep
  case await => split at hstep <;> cases hstep
  case hangUp =>
    cases hstep
    exact ⟨rfl, rfl⟩
  all_goals cases hstep

theorem Phase.eq_of_client? {p : Phase} {c : Client} (hc : p.client? = some c) :
    (∃ target next, p = .opening target c next) ∨ (∃ target, p = .active target c) ∨
      ∃ next sequel, p = .closing c next sequel := by
  cases p with
  | idle => cases hc
  | connecting => cases hc
  | opening target d next =>
      cases hc
      exact .inl ⟨target, next, rfl⟩
  | active target d =>
      cases hc
      exact .inr (.inl ⟨target, rfl⟩)
  | closing d next sequel =>
      cases hc
      exact .inr (.inr ⟨next, sequel, rfl⟩)

theorem Phase.setClient_of_client? {p : Phase} {c : Client} (hc : p.client? = some c) :
    p.setClient c = p := by
  rcases eq_of_client? hc with ⟨target, next, rfl⟩ | ⟨target, rfl⟩ | ⟨next, sequel, rfl⟩ <;> rfl

theorem Phase.client?_setClient {p : Phase} {c : Client} (hc : p.client? = some c) (d : Client) :
    (p.setClient d).client? = some d := by
  rcases eq_of_client? hc with ⟨target, next, rfl⟩ | ⟨target, rfl⟩ | ⟨next, sequel, rfl⟩ <;> rfl

theorem map_did_ofClient (s : Controller) (acts : List Client.Act) :
    (s.ofClient acts).map Note.did = clientNotes s.attempts acts := by
  simp [ofClient, clientNotes]

theorem begins_begin (e : Editor) (s : Controller) :
    s.Begins ((s.begin e).2.map .did) (s.begin e).1 := by
  unfold begin
  cases htarget : Target.ofEditor? e with
  | none => exact .disabled e htarget
  | some target => exact .attempted e target htarget

/-- Clearing the outstanding offer, or the client, makes no difference to a start. -/
theorem begin_congr (e : Editor) {s t : Controller} (ha : s.attempts = t.attempts)
    (hp : s.nextPrompt = t.nextPrompt) : s.begin e = t.begin e := by
  unfold begin
  simp only [ha, hp]

theorem moved_begin (e : Editor) (s : Controller) (hphase : s.phase = .idle) :
    s.Moved ((s.begin e).2.map .did) (s.begin e).1 :=
  .once (.began hphase (begins_begin e s))

theorem phase_of_isReady {s : Controller} (hready : s.isReady = true) :
    s.phase = .idle ∨ ∃ target c, s.phase = .active target c := by
  unfold isReady at hready
  split at hready
  · rename_i hphase
    exact .inl hphase
  · rename_i target c hphase
    exact .inr ⟨target, c, hphase⟩
  · cases hready

theorem moved_stopThen (e : Editor) (s : Controller) (sequel : Sequel) (hready : s.isReady = true)
    (hsequel : sequel ≠ .offer) :
    s.Moved ((s.stopThen e sequel).2.map .did) (s.stopThen e sequel).1 := by
  rcases phase_of_isReady hready with hphase | ⟨target, c, hphase⟩
  · cases sequel with
    | rest =>
        simp only [stopThen, hphase]
        exact .not
    | start =>
        simp only [stopThen, hphase]
        exact moved_begin e s hphase
    | offer => exact absurd rfl hsequel
  · simp only [stopThen, hphase]
    exact .once (.closed sequel hphase fun h => absurd h hsequel)

theorem retry_of_outstanding (e : Editor) {s : Controller} {prompt : Nat}
    (hphase : s.phase = .idle) (hprompt : s.outstanding = some prompt) :
    s.retry e prompt = s.begin e := by
  simp only [retry, hprompt, active?, hphase, stopThen, Option.isNone_none, and_self, ↓reduceIte]
  exact begin_congr e rfl rfl

theorem retry_of_ne (e : Editor) {s : Controller} {prompt : Nat}
    (hprompt : s.outstanding ≠ some prompt) : s.retry e prompt = (s, []) := by
  simp [retry, hprompt]

theorem retry_of_active (e : Editor) {s : Controller} {target : Target} {c : Client}
    (hphase : s.phase = .active target c) (prompt : Nat) : s.retry e prompt = (s, []) := by
  simp [retry, active?, hphase]

theorem moved_retry (e : Editor) (s : Controller) (prompt : Nat) (hready : s.isReady = true) :
    s.Moved ((s.retry e prompt).2.map .did) (s.retry e prompt).1 := by
  rcases phase_of_isReady hready with hphase | ⟨target, c, hphase⟩
  · by_cases hprompt : s.outstanding = some prompt
    · rw [retry_of_outstanding e hphase hprompt]
      exact moved_begin e s hphase
    · rw [retry_of_ne e hprompt]
      exact .not
  · rw [retry_of_active e hphase]
    exact .not

theorem moved_noticeLoss (s : Controller) : s.Moved (s.noticeLoss.2.map .did) s.noticeLoss.1 := by
  unfold noticeLoss
  split
  · rename_i target c hphase
    split
    · exact .not
    · rename_i hlost
      refine .once (.closed _ hphase fun hoffer => ⟨by simpa using hlost, ?_⟩)
      cases htarget : target.isPort with
      | true => rfl
      | false => simp [htarget] at hoffer
  · exact .not

theorem moved_reportDocument (s : Controller) (event : Document.Event) :
    s.Moved (s.noted (.perform (.handle (.document event))) ++
      (s.reportDocument event).2.map .did) (s.reportDocument event).1 := by
  unfold reportDocument
  split
  · rename_i target c hphase
    have hnoted : s.noted (.perform (.handle (.document event))) = [.reported s.attempts event] := by
      simp [noted, active?, hphase]
    rw [hnoted]
    split
    · rename_i hcovers
      simp only [map_did_ofClient]
      exact .once (.told event hphase hcovers)
    · rename_i hcovers
      exact .once (.passed event hphase (by simpa using hcovers))
  · rename_i hphase
    have hnoted : s.noted (.perform (.handle (.document event))) = [] := by
      cases hp : s.phase with
      | active target c => exact absurd hp (hphase target c)
      | _ => simp [noted, active?, hp]
    rw [hnoted]
    exact .not

theorem moved_reportFiles (s : Controller) (changes : List Document.FileChange) :
    s.Moved ((s.reportFiles changes).map .did) s := by
  unfold reportFiles
  split
  · rename_i c change changes hactive hchanges
    cases hphase : s.phase with
    | active target d =>
        obtain rfl : d = c := by simpa [active?, hphase] using hactive
        rw [map_did_ofClient]
        exact .once (.toldFiles _ hphase)
    | _ => simp [active?, hphase] at hactive
  · exact .not

theorem moved_perform (e : Editor) (s : Controller) (op : Operation) (hready : s.isReady = true) :
    s.Moved (s.noted (.perform op) ++ (s.perform e op).2.map .did) (s.perform e op).1 := by
  have hnot (sequel : Sequel) : sequel = .rest ∨ sequel = .start → sequel ≠ .offer := by
    rintro (rfl | rfl) <;> nofun
  cases op with
  | start =>
      simp only [noted, perform, List.nil_append]
      rcases phase_of_isReady hready with hphase | ⟨target, c, hphase⟩
      · simp only [active?, hphase]
        exact moved_begin e s hphase
      · simp only [active?, hphase]
        exact .once (.refused hphase)
  | stop => exact moved_stopThen e s .rest hready (hnot _ (.inl rfl))
  | restart => exact moved_stopThen e s .start hready (hnot _ (.inr rfl))
  | retry prompt => exact moved_retry e s prompt hready
  | noticeLoss => exact moved_noticeLoss s
  | handle event =>
      cases event with
      | settingsChanged => exact moved_stopThen e s .start hready (hnot _ (.inr rfl))
      | chosen prompt action =>
          cases action with
          | openSettings => exact .once (.dismissed prompt hready)
          | reconnect => exact moved_retry e s prompt hready
      | document event => exact moved_reportDocument s event
      | filesChanged changes => exact moved_reportFiles s changes
      | connectionLost => exact moved_noticeLoss s
      | shutdown => exact .not

theorem moved_reached (s : Controller) (r : Reach) :
    s.Moved (s.noted (.reached r) ++ (s.reached r).2.map .did) (s.reached r).1 := by
  cases hphase : s.phase with
  | connecting target options =>
      cases r with
      | established =>
          have hnoted : s.noted (.reached .established) = [.connected s.attempts] := by
            simp [noted, hphase]
          simp only [hnoted, reached, hphase, Reach.error?]
          exact .once (.connected hphase)
      | missing =>
          simp only [noted, reached, hphase, Reach.error?]
          cases target with
          | command launch => exact .once (.unlaunched _ hphase)
          | port address => exact .once (.unreachable hphase)
      | failed =>
          simp only [noted, reached, hphase, Reach.error?]
          cases target with
          | command launch => exact .once (.unlaunched _ hphase)
          | port address => exact .once (.unreachable hphase)
  | _ =>
      have hnoted : s.noted (.reached r) = [] := by
        cases r <;> simp [noted, hphase]
      simp only [hnoted, reached, hphase]
      exact .not

theorem abandon_eq {s : Controller} {error : Client.Error}
    (herror : ∀ address, error ≠ .unreachable address) : s.abandon error =
      ({ s with phase := .idle }, s.ofClient [.hungUp] ++ [.concluded (.failed error)]) := by
  cases error with
  | unreachable address => exact absurd rfl (herror address)
  | _ => rfl

theorem moved_abandon {s : Controller} {target : Target} {c : Client} {next : Client.Handshake}
    {error : Client.Error} (hphase : s.phase = .opening target c next)
    (hcause : next.step c = (.failed error, []) ∨ next.expire c = some error) :
    s.Moved ((s.abandon error).2.map .did) (s.abandon error).1 := by
  have herror : ∀ address, error ≠ .unreachable address := by
    rcases hcause with hstep | hexpire
    · exact (handshake_failed hstep).2
    · exact handshake_expire hexpire
  rw [abandon_eq herror]
  exact .once (.abandoned error hphase hcause)

theorem moved_hangUp (e : Editor) {s : Controller} {c : Client} {sequel : Sequel}
    (hphase : s.phase = .closing c .hangUp sequel) :
    s.Moved (clientNotes s.attempts [.hungUp] ++
        ({ s with phase := .idle }.stopThen e sequel).2.map .did)
      ({ s with phase := .idle }.stopThen e sequel).1 := by
  cases sequel with
  | rest => exact .once (.parted hphase)
  | offer => exact .once (.partedOffering hphase)
  | start =>
      have hbegin : { s with phase := .idle }.stopThen e .start = s.begin e :=
        begin_congr e rfl rfl
      rw [hbegin]
      exact .once (.partedBeginning hphase (begins_begin e s))

theorem moved_proceed (e : Editor) (s : Controller) :
    s.Moved ((s.proceed e).2.map .did) (s.proceed e).1 := by
  unfold proceed
  split
  · rename_i target c next hphase
    rcases hstep : next.step c with ⟨progress, acts⟩
    cases progress with
    | next d next' =>
        simp only [map_did_ofClient]
        exact .once (.shook hphase hstep)
    | waits =>
        obtain rfl := handshake_acts_of_waits hstep
        exact .not
    | failed error =>
        obtain ⟨rfl, -⟩ := handshake_failed hstep
        exact moved_abandon hphase (.inl hstep)
    | done d =>
        simp only [List.map_append, map_did_ofClient]
        exact .once (.started hphase hstep)
  · rename_i c next sequel hphase
    rcases hstep : next.step c with ⟨progress, acts⟩
    cases progress with
    | next d next' =>
        simp only [map_did_ofClient]
        exact .once (.parting hphase hstep)
    | waits =>
        obtain rfl := farewell_acts_of_waits hstep
        exact .not
    | done =>
        obtain ⟨rfl, rfl⟩ := farewell_done hstep
        simp only [List.map_append, map_did_ofClient]
        exact moved_hangUp e hphase
  · exact .not

theorem moved_expire (s : Controller) : s.Moved (s.expire.2.map .did) s.expire.1 := by
  unfold expire
  split
  · rename_i target c next hphase
    split
    · rename_i error hexpire
      exact moved_abandon hphase (.inr hexpire)
    · exact .not
  · rename_i c next sequel hphase
    split
    · rename_i d next' hexpire
      exact .once (.gaveUp hphase hexpire)
    · exact .not
  · exact .not

theorem onClient_of_held {s : Controller} {c : Client} (hheld : s.phase.client? = some c)
    (f : Client → Client × List Client.Act) :
    s.onClient s.attempts f =
      ({ s with phase := s.phase.setClient (f c).1 }, s.ofClient (f c).2) := by
  simp [onClient, hheld]

theorem onClient_of_not_held {s : Controller} {attempt : Nat}
    (hnot : attempt = s.attempts → s.phase.client? = none)
    (f : Client → Client × List Client.Act) : s.onClient attempt f = (s, []) := by
  unfold onClient
  split
  · rename_i hattempt
    rw [hnot hattempt]
  · rfl

theorem moved_onClient {s : Controller} {c : Client} (frames : List Json)
    (f : Client → Client × List Client.Act) (hheld : s.phase.client? = some c)
    (hserved : c.Served frames (f c).2 (f c).1) :
    s.Moved (frames.map (.heard s.attempts) ++ (s.onClient s.attempts f).2.map .did)
      (s.onClient s.attempts f).1 := by
  rw [onClient_of_held hheld, map_did_ofClient]
  exact .once (.served hheld hserved)

theorem onClient_of_unmoved {s : Controller} {c : Client} {f : Client → Client × List Client.Act}
    (hheld : s.phase.client? = some c) (hf : f c = (c, [])) :
    s.onClient s.attempts f = (s, []) := by
  simp [onClient_of_held hheld, hf, Phase.setClient_of_client? hheld, ofClient]

theorem moved_arrive (s : Controller) (attempt : Nat) (r : Wire.Reading) :
    s.Moved (s.noted (.arrive attempt r) ++ (s.onClient attempt (·.arrive r)).2.map .did)
      (s.onClient attempt (·.arrive r)).1 := by
  by_cases hheld : attempt = s.attempts ∧ ∃ c, s.phase.client? = some c
  · obtain ⟨rfl, c, hc⟩ := hheld
    by_cases hrunning : c.inflow = .running
    · cases r with
      | frame frame =>
          have hnoted : s.noted (.arrive s.attempts (.frame frame)) =
              [frame].map (.heard s.attempts) := by
            simp [noted, hears, hc, hrunning]
          have harrive : c.arrive (.frame frame) = c.dispatch frame := by
            simp [Client.arrive, hrunning]
          rw [hnoted]
          exact moved_onClient [frame] (·.arrive (.frame frame)) hc
            (harrive ▸ .took frame hrunning)
      | ended =>
          have harrive : c.arrive .ended = ({ c with inflow := .ended }, []) := by
            simp [Client.arrive, hrunning]
          exact moved_onClient [] (·.arrive .ended) hc
            (harrive ▸ .ended hrunning)
      | error fault =>
          have harrive : c.arrive (.error fault) = ({ c with inflow := .ended }, []) := by
            simp [Client.arrive, hrunning]
          exact moved_onClient [] (·.arrive (.error fault)) hc
            (harrive ▸ .ended hrunning)
    · have hnoted : s.noted (.arrive s.attempts r) = [] := by
        cases r <;> simp [noted, hears, hc, hrunning]
      have harrive : c.arrive r = (c, []) := by
        cases hinflow : c.inflow with
        | running => exact absurd hinflow hrunning
        | _ => simp [Client.arrive, hinflow]
      rw [hnoted, onClient_of_unmoved hc harrive]
      exact .not
  · have hnot : attempt = s.attempts → s.phase.client? = none := fun h =>
      Option.eq_none_iff_forall_ne_some.mpr fun c hc => hheld ⟨h, c, hc⟩
    have hnoted : s.noted (.arrive attempt r) = [] := by
      cases r with
      | frame frame =>
          by_cases hattempt : attempt = s.attempts
          · simp [noted, hears, hnot hattempt]
          · simp [noted, hears, hattempt]
      | _ => rfl
    rw [hnoted, onClient_of_not_held hnot]
    exact .not

theorem moved_touch (s : Controller) (attempt : Nat) (f : Client → Client)
    (hf : ∀ c : Client, c.Served [] [] (f c)) :
    s.Moved ((s.onClient attempt fun c => (f c, [])).2.map .did)
      (s.onClient attempt fun c => (f c, [])).1 := by
  by_cases hheld : attempt = s.attempts ∧ ∃ c, s.phase.client? = some c
  · obtain ⟨rfl, c, hc⟩ := hheld
    exact moved_onClient [] (fun c => (f c, [])) hc (hf c)
  · rw [onClient_of_not_held fun h =>
      Option.eq_none_iff_forall_ne_some.mpr fun c hc => hheld ⟨h, c, hc⟩]
    exact .not

theorem moved_step (e : Editor) (s : Controller) (i : Input) :
    s.Moved (s.notes e i) (s.step e i).1 := by
  unfold notes
  cases i with
  | perform op =>
      by_cases hready : s.isReady = true
      · simp only [step, hready, ↓reduceIte]
        exact moved_perform e s op hready
      · have hactive : s.active? = none := by
          cases hphase : s.phase with
          | active target c => simp [isReady, hphase] at hready
          | _ => simp [active?, hphase]
        have hnoted : s.noted (.perform op) = [] := by
          cases op with
          | handle event => cases event <;> simp [noted, hactive]
          | _ => rfl
        simp only [step, hready, hnoted]
        exact .not
  | reached r => exact moved_reached s r
  | proceed => exact moved_proceed e s
  | expire => exact moved_expire s
  | arrive attempt r => exact moved_arrive s attempt r
  | wind attempt => exact moved_touch s attempt Client.wind fun _ => .wound
  | jam attempt => exact moved_touch s attempt Client.jam fun _ => .jammed

theorem moves_step (e : Editor) (s : Controller) (i : Input) :
    s.Moves (s.notes e i) (s.step e i).1 :=
  (moved_step e s i).moves

theorem moves_history (s : Controller) (inputs : List (Editor × Input)) :
    s.Moves (s.history inputs) (s.run inputs).1 := by
  induction inputs generalizing s with
  | nil => exact .none
  | cons input inputs ih =>
      obtain ⟨e, i⟩ := input
      exact (moves_step e s i).trans (ih (s.step e i).1)

end Controller

end ServerLink
