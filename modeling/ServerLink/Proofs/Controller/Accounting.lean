import Mathlib.Data.List.Induction
import ServerLink.Proofs.Controller.Coherence
import ServerLink.Proofs.Controller.Recovery

/-!
The account of the offers to recover. Each has a cause of its own, a port that could not be reached or a
connection to a port that was found to be lost, and each cause leads to one offer.
-/

namespace ServerLink.Controller

/-- What the user is to be offered to recover from, with the number of the attempt. -/
inductive Cause where
  | dial (attempt : Nat) (address : Transport.LocalPort)
  | loss (attempt : Nat) (address : Transport.LocalPort)

def Cause.attempt : Cause → Nat
  | .dial attempt _ => attempt
  | .loss attempt _ => attempt

/-- Whether the controller is asked to look whether its connection is lost. -/
def Operation.looksForLoss : Operation → Bool
  | .noticeLoss => true
  | .handle .connectionLost => true
  | _ => false

/-- The cause for an offer that an input brings, told from the input and the state alone. -/
def cause? (s : Controller) : Input → Option Cause
  | .reached r =>
      match s.phase with
      | .connecting (.port address) _ =>
          if r = .established then none else some (.dial s.attempts address)
      | _ => none
  | .perform op =>
      match s.phase with
      | .active (.port address) c =>
          if op.looksForLoss && !c.isConnected then some (.loss s.attempts address) else none
      | _ => none
  | _ => none

def causes (s : Controller) : List (Editor × Input) → List Cause
  | [] => []
  | (e, i) :: inputs => (s.cause? i).toList ++ (s.step e i).1.causes inputs

/-- The offers in a run, each with the number of the attempt that was the last by then. -/
def offers (s : Controller) : List (Editor × Input) → List (Nat × Nat)
  | [] => []
  | (e, i) :: inputs =>
      (prompts (s.notes e i)).map (s.attempts, ·) ++ (s.step e i).1.offers inputs

/-- Whether an offer is due once the client has hung up. -/
def Phase.owesOffer : Phase → Bool
  | .closing _ _ sequel => sequel == .offer
  | _ => false

@[simp] theorem Phase.owesOffer_setClient (p : Phase) (c : Client) :
    (p.setClient c).owesOffer = p.owesOffer := by
  cases p <;> rfl

/-- The attempt for which an offer is due. -/
def owed (s : Controller) : List Nat :=
  if s.phase.owesOffer then [s.attempts] else []

/-- What a step does makes no offer, and none is due after it. -/
structure Calm (r : Controller × List Act) : Prop where
  prompts : prompts (r.2.map .did) = []
  owed : r.1.owed = []

theorem prompts_ofClient (s : Controller) (acts : List Client.Act) :
    prompts ((s.ofClient acts).map .did) = [] := by
  rw [map_did_ofClient, prompts_clientNotes]

theorem owed_of_isReady {s : Controller} (hready : s.isReady = true) : s.owed = [] := by
  rcases phase_of_isReady hready with hphase | ⟨target, c, hphase⟩ <;>
    simp [owed, hphase, Phase.owesOffer]

theorem calm_nothing {s : Controller} (hready : s.isReady = true) : Calm (s, []) :=
  ⟨rfl, owed_of_isReady hready⟩

theorem calm_begin (e : Editor) (s : Controller) : Calm (s.begin e) := by
  unfold begin
  cases Target.ofEditor? e with
  | none => exact ⟨rfl, rfl⟩
  | some target => exact ⟨rfl, rfl⟩

theorem calm_stopThen (e : Editor) {s : Controller} (hready : s.isReady = true) {sequel : Sequel}
    (hsequel : sequel ≠ .offer) : Calm (s.stopThen e sequel) := by
  rcases phase_of_isReady hready with hphase | ⟨target, c, hphase⟩
  · cases sequel with
    | rest =>
        simp only [stopThen, hphase]
        exact calm_nothing hready
    | start =>
        simp only [stopThen, hphase]
        exact calm_begin e s
    | offer => exact absurd rfl hsequel
  · cases sequel with
    | offer => exact absurd rfl hsequel
    | _ =>
        simp only [stopThen, hphase]
        exact ⟨rfl, rfl⟩

theorem calm_retry (e : Editor) {s : Controller} (hready : s.isReady = true) (prompt : Nat) :
    Calm (s.retry e prompt) := by
  rcases phase_of_isReady hready with hphase | ⟨target, c, hphase⟩
  · by_cases hprompt : s.outstanding = some prompt
    · rw [retry_of_outstanding e hphase hprompt]
      exact calm_begin e s
    · rw [retry_of_ne e hprompt]
      exact calm_nothing hready
  · rw [retry_of_active e hphase]
    exact calm_nothing hready

/-- Whatever else the controller is asked to do than to look for a loss, it makes no offer. -/
theorem calm_perform (e : Editor) {s : Controller} (hready : s.isReady = true) {op : Operation}
    (hop : op.looksForLoss = false) : Calm (s.perform e op) := by
  have howed := owed_of_isReady hready
  cases op with
  | start =>
      simp only [perform]
      split
      · exact ⟨rfl, howed⟩
      · exact calm_begin e s
  | stop => exact calm_stopThen e hready (by decide)
  | restart => exact calm_stopThen e hready (by decide)
  | retry prompt => exact calm_retry e hready prompt
  | noticeLoss => cases hop
  | handle event =>
      cases event with
      | settingsChanged => exact calm_stopThen e hready (by decide)
      | chosen prompt action =>
          cases action with
          | openSettings =>
              refine ⟨rfl, ?_⟩
              change (s.dismiss prompt).owed = []
              simpa [owed] using howed
          | reconnect => exact calm_retry e hready prompt
      | document event =>
          change Calm (s.reportDocument event)
          unfold reportDocument
          split
          · split
            · exact ⟨prompts_ofClient _ _, rfl⟩
            · exact ⟨rfl, howed⟩
          · exact ⟨rfl, howed⟩
      | filesChanged changes =>
          change Calm (s, s.reportFiles changes)
          unfold reportFiles
          split
          · exact ⟨prompts_ofClient _ _, howed⟩
          · exact ⟨rfl, howed⟩
      | connectionLost => cases hop
      | shutdown => exact ⟨rfl, howed⟩

/-- The offer that is due and the cause that comes up are the offers that are made and the one that is due
then. -/
def Balanced (s : Controller) (cause : Option Cause) (r : Controller × List Act) : Prop :=
  s.owed ++ cause.toList.map Cause.attempt =
    (prompts (r.2.map .did)).map (fun _ => s.attempts) ++ r.1.owed

theorem Calm.balanced {s : Controller} {r : Controller × List Act} (hcalm : Calm r)
    (howed : s.owed = []) : s.Balanced none r := by
  simp [Balanced, hcalm.prompts, hcalm.owed, howed]

theorem balanced_ofClient {s t : Controller} (acts : List Client.Act) (howed : t.owed = s.owed) :
    s.Balanced none (t, s.ofClient acts) := by
  simp [Balanced, prompts_ofClient, howed]

theorem balanced_noticeLoss (s : Controller) {op : Operation} (hop : op.looksForLoss = true) :
    s.Balanced (s.cause? (.perform op)) s.noticeLoss := by
  cases hphase : s.phase with
  | active target c =>
      have howed : s.owed = [] := by simp [owed, hphase, Phase.owesOffer]
      simp only [noticeLoss, hphase]
      cases hconnected : c.isConnected with
      | true =>
          have hcause : s.cause? (.perform op) = none := by
            cases target <;> simp [cause?, hphase, hconnected]
          rw [hcause]
          exact Calm.balanced ⟨rfl, howed⟩ howed
      | false =>
          cases target with
          | command launch =>
              simp only [cause?, hphase]
              exact Calm.balanced ⟨rfl, rfl⟩ howed
          | port address =>
              simp [Balanced, cause?, hphase, hop, hconnected, owed, Phase.owesOffer, Target.isPort,
                prompts, Cause.attempt]
  | _ =>
      simp only [noticeLoss, cause?, hphase]
      exact balanced_ofClient [] rfl

theorem balanced_perform (e : Editor) (s : Controller) (op : Operation) :
    s.Balanced (s.cause? (.perform op)) (s.step e (.perform op)) := by
  by_cases hready : s.isReady = true
  · simp only [step, hready, if_true]
    cases hop : op.looksForLoss with
    | true =>
        have hnotice : s.perform e op = s.noticeLoss := by
          cases op with
          | noticeLoss => rfl
          | handle event =>
              cases event with
              | connectionLost => rfl
              | _ => cases hop
          | _ => cases hop
        rw [hnotice]
        exact balanced_noticeLoss s hop
    | false =>
        have hcause : s.cause? (.perform op) = none := by
          simp only [cause?, hop, Bool.false_and]
          split <;> rfl
        rw [hcause]
        exact (calm_perform e hready hop).balanced (owed_of_isReady hready)
  · have hcause : s.cause? (.perform op) = none := by
      cases hphase : s.phase with
      | active => simp [isReady, hphase] at hready
      | _ => simp [cause?, hphase]
    simp only [step, hready, hcause]
    exact balanced_ofClient [] rfl

theorem balanced_reached (s : Controller) (r : Reach) :
    s.Balanced (s.cause? (.reached r)) (s.reached r) := by
  cases hphase : s.phase with
  | connecting target options =>
      have howed : s.owed = [] := by simp [owed, hphase, Phase.owesOffer]
      cases target with
      | command launch =>
          have hcause : s.cause? (.reached r) = none := by simp [cause?, hphase]
          rw [hcause]
          refine Calm.balanced ?_ howed
          cases r <;> simp only [reached, hphase, Reach.error?] <;> exact ⟨rfl, rfl⟩
      | port address =>
          cases r with
          | established =>
              simp only [reached, hphase, Reach.error?, cause?]
              exact Calm.balanced ⟨rfl, rfl⟩ howed
          | _ =>
              simp only [Balanced, reached, hphase, Reach.error?, cause?, howed]
              rfl
  | _ =>
      simp only [reached, cause?, hphase]
      exact balanced_ofClient [] rfl

theorem calm_abandon (s : Controller) {error : Client.Error}
    (herror : ∀ address, error ≠ .unreachable address) : Calm (s.abandon error) := by
  rw [abandon_eq herror]
  exact ⟨rfl, rfl⟩

theorem balanced_proceed (e : Editor) (s : Controller) : s.Balanced none (s.proceed e) := by
  cases hphase : s.phase with
  | opening target c next =>
      have howed : s.owed = [] := by simp [owed, hphase, Phase.owesOffer]
      simp only [proceed, hphase]
      rcases hstep : next.step c with ⟨progress, acts⟩
      cases progress with
      | next d next' => exact balanced_ofClient acts (by simp [owed, hphase, Phase.owesOffer])
      | waits => exact balanced_ofClient acts rfl
      | failed error =>
          obtain ⟨rfl, herror⟩ := handshake_failed hstep
          exact (s.calm_abandon herror).balanced howed
      | done d =>
          refine Calm.balanced ⟨?_, rfl⟩ howed
          rw [List.map_append, prompts_append, prompts_ofClient]
          rfl
  | closing c next sequel =>
      simp only [proceed, hphase]
      rcases hstep : next.step c with ⟨progress, acts⟩
      cases progress with
      | next d next' => exact balanced_ofClient acts (by simp [owed, hphase, Phase.owesOffer])
      | waits => exact balanced_ofClient acts rfl
      | done =>
          cases sequel with
          | rest =>
              have howed : s.owed = [] := by simp [owed, hphase, Phase.owesOffer]
              refine Calm.balanced ⟨?_, rfl⟩ howed
              rw [List.map_append, prompts_append, prompts_ofClient]
              rfl
          | start =>
              have howed : s.owed = [] := by simp [owed, hphase, Phase.owesOffer]
              have hcalm := calm_begin e { s with phase := .idle }
              refine Calm.balanced ⟨?_, hcalm.owed⟩ howed
              rw [List.map_append, prompts_append, prompts_ofClient]
              exact hcalm.prompts
          | offer =>
              have howed : s.owed = [s.attempts] := by simp [owed, hphase, Phase.owesOffer]
              simp only [Balanced, howed, List.map_append, prompts_append, prompts_ofClient]
              rfl
  | _ =>
      simp only [proceed, hphase]
      exact balanced_ofClient [] rfl

theorem balanced_expire (s : Controller) : s.Balanced none s.expire := by
  cases hphase : s.phase with
  | opening target c next =>
      have howed : s.owed = [] := by simp [owed, hphase, Phase.owesOffer]
      simp only [expire, hphase]
      split
      · rename_i error hexpire
        exact (s.calm_abandon (handshake_expire hexpire)).balanced howed
      · exact balanced_ofClient [] rfl
  | closing c next sequel =>
      simp only [expire, hphase]
      split
      · exact balanced_ofClient [] (by simp [owed, hphase, Phase.owesOffer])
      · exact balanced_ofClient [] rfl
  | _ =>
      simp only [expire, hphase]
      exact balanced_ofClient [] rfl

theorem balanced_onClient (s : Controller) (attempt : Nat)
    (f : Client → Client × List Client.Act) : s.Balanced none (s.onClient attempt f) := by
  unfold onClient
  split
  · split
    · exact balanced_ofClient _ (by simp [owed])
    · exact balanced_ofClient [] rfl
  · exact balanced_ofClient [] rfl

theorem balanced_step (e : Editor) (s : Controller) (i : Input) :
    s.Balanced (s.cause? i) (s.step e i) := by
  cases i with
  | perform op => exact balanced_perform e s op
  | reached r => exact balanced_reached s r
  | proceed => exact balanced_proceed e s
  | expire => exact balanced_expire s
  | arrive attempt r => exact balanced_onClient s attempt _
  | wind attempt => exact balanced_onClient s attempt _
  | jam attempt => exact balanced_onClient s attempt _

theorem prompts_noted (s : Controller) (i : Input) : prompts (s.noted i) = [] := by
  unfold noted
  split
  · split <;> rfl
  · split <;> rfl
  · split <;> rfl
  · rfl

/-- The causes in a run, in their order, are those of the offers and of the one that is due. -/
theorem balanced_run (s : Controller) (inputs : List (Editor × Input)) :
    s.owed ++ (s.causes inputs).map Cause.attempt =
      (s.offers inputs).map Prod.fst ++ (s.run inputs).1.owed := by
  induction inputs generalizing s with
  | nil => simp [causes, offers, run]
  | cons input inputs ih =>
      obtain ⟨e, i⟩ := input
      have hstep : s.owed ++ (s.cause? i).toList.map Cause.attempt =
          (prompts (s.notes e i)).map (fun _ => s.attempts) ++ (s.step e i).1.owed := by
        rw [notes, prompts_append, prompts_noted, List.nil_append]
        exact balanced_step e s i
      calc s.owed ++ (s.causes ((e, i) :: inputs)).map Cause.attempt
        _ = (s.owed ++ (s.cause? i).toList.map Cause.attempt) ++
              ((s.step e i).1.causes inputs).map Cause.attempt := by
            simp [causes]
        _ = (prompts (s.notes e i)).map (fun _ => s.attempts) ++
              ((s.step e i).1.offers inputs).map Prod.fst ++
              ((s.step e i).1.run inputs).1.owed := by
            rw [hstep, List.append_assoc, ih, List.append_assoc]
        _ = (s.offers ((e, i) :: inputs)).map Prod.fst ++ (s.run ((e, i) :: inputs)).1.owed := by
            simp [offers, run, Function.comp_def]

theorem prompts_history (s : Controller) (inputs : List (Editor × Input)) :
    (s.offers inputs).map Prod.snd = prompts (s.history inputs) := by
  induction inputs generalizing s with
  | nil => rfl
  | cons input inputs ih =>
      obtain ⟨e, i⟩ := input
      simp [offers, history, ih, Function.comp_def]

def targetsOf (attempt : Nat) (h : List Note) : List Target :=
  h.filterMap fun
    | .did (.attempted n target) => if n = attempt then some target else none
    | _ => none

/-- Whether an attempt can bring no cause any more. -/
def Spent (k : Nat) (s : Controller) : Prop :=
  k < s.attempts ∨ k = s.attempts ∧ (s.phase = .idle ∨ s.phase.owesOffer = true)

/-- What a history tells of a cause: the target was a port, and it was not reached, or else the handshake
was over. -/
def Cause.IsBorneOut (h : List Note) : Cause → Prop
  | .dial k address => targetsOf k h = [.port address] ∧ .connected k ∉ h
  | .loss k address => targetsOf k h = [.port address] ∧ .wrote .introduced ∈ clientActs k h

/-- What the phase says of the target of the last attempt. -/
def Phase.Aims (k : Nat) (h : List Note) : Phase → Prop
  | .connecting target _ => targetsOf k h = [target]
  | .opening target _ _ => targetsOf k h = [target]
  | .active target _ => targetsOf k h = [target]
  | _ => True

@[simp] theorem Phase.aims_setClient (p : Phase) (c : Client) (k : Nat) (h : List Note) :
    (p.setClient c).Aims k h = p.Aims k h := by
  cases p <;> rfl

/-- A history in which every attempt has one target, that of its client. -/
structure Aiming (h : List Note) (s : Controller) : Prop where
  future : ∀ k, s.attempts < k → targetsOf k h = []
  present : s.phase.Aims s.attempts h

@[simp] theorem targetsOf_append (k : Nat) (h new : List Note) :
    targetsOf k (h ++ new) = targetsOf k h ++ targetsOf k new :=
  List.filterMap_append

@[simp] theorem targetsOf_clientNotes (k attempt : Nat) (acts : List Client.Act) :
    targetsOf k (clientNotes attempt acts) = [] := by
  simp [targetsOf, clientNotes, List.filterMap_map]

@[simp] theorem targetsOf_heard (k attempt : Nat) (frames : List Json) :
    targetsOf k (frames.map (.heard attempt)) = [] := by
  simp [targetsOf, List.filterMap_map]

theorem Begins.targets {s t : Controller} {new : List Note} (hbegins : s.Begins new t) {k : Nat}
    (hk : k ≤ s.attempts ∨ t.attempts = s.attempts) : targetsOf k new = [] := by
  cases hbegins with
  | disabled => rfl
  | attempted =>
      have hne : s.attempts + 1 ≠ k := by
        rcases hk with hk | hk
        · omega
        · exact absurd hk (Nat.succ_ne_self _)
      simp [targetsOf, hne]

/-- A move tries no target in any attempt but a new one. -/
theorem Move.targets {s t : Controller} {new : List Note} (move : s.Move new t) {k : Nat}
    (hk : k ≤ s.attempts ∨ t.attempts = s.attempts) : targetsOf k new = [] := by
  cases move with
  | began _ hbegins => exact hbegins.targets hk
  | partedBeginning _ hbegins => simp [hbegins.targets hk]
  | told => exact targetsOf_clientNotes ..
  | served => simp
  | shook => exact targetsOf_clientNotes ..
  | parting => exact targetsOf_clientNotes ..
  | toldFiles => exact targetsOf_clientNotes ..
  | started =>
      rw [targetsOf_append, targetsOf_clientNotes]
      rfl
  | _ => rfl

theorem Phase.Aims.append {p : Phase} {k : Nat} {h new : List Note} (hp : p.Aims k h)
    (hnew : targetsOf k new = []) : p.Aims k (h ++ new) := by
  have hsame : targetsOf k (h ++ new) = targetsOf k h := by
    rw [targetsOf_append, hnew, List.append_nil]
  cases p with
  | idle => trivial
  | closing => trivial
  | _ => exact hsame.trans hp

theorem Aiming.stay {h new : List Note} {s t : Controller} (ha : Aiming h s) (move : s.Move new t)
    (hattempts : t.attempts = s.attempts) (haims : t.phase.Aims s.attempts h) :
    Aiming (h ++ new) t := by
  constructor
  · intro k hk
    rw [hattempts] at hk
    rw [targetsOf_append, ha.future k hk, move.targets (.inr hattempts)]
    rfl
  · rw [hattempts]
    exact haims.append (move.targets (.inr hattempts))

theorem Begins.aiming {h new : List Note} {s t : Controller} (hbegins : s.Begins new t)
    (hfuture : ∀ k, s.attempts < k → targetsOf k h = []) : Aiming (h ++ new) t := by
  cases hbegins with
  | disabled =>
      refine ⟨?_, trivial⟩
      intro k hk
      rw [targetsOf_append, hfuture k hk]
      rfl
  | attempted e target htarget =>
      constructor
      · intro k hk
        have hne : s.attempts + 1 ≠ k := Nat.ne_of_lt hk
        rw [targetsOf_append, hfuture k (Nat.lt_of_succ_lt hk)]
        simp [targetsOf, hne]
      · change targetsOf _ _ = [target]
        rw [targetsOf_append, hfuture _ (Nat.lt_succ_self _)]
        simp [targetsOf]

theorem Aiming.move {h new : List Note} {s t : Controller} (ha : Aiming h s) (move : s.Move new t) :
    Aiming (h ++ new) t := by
  have hpresent := ha.present
  cases hmove : move with
  | began _ hbegins => exact hbegins.aiming ha.future
  | partedBeginning _ hbegins =>
      rw [← List.append_assoc]
      refine hbegins.aiming fun k hk => ?_
      simp [ha.future k hk]
  | dismissed prompt hready =>
      refine ha.stay move (s.attempts_dismiss prompt) ?_
      rw [phase_dismiss]
      exact hpresent
  | connected hphase | shook hphase | started hphase | told _ hphase =>
      rw [hphase] at hpresent
      exact ha.stay move rfl hpresent
  | served hheld =>
      refine ha.stay move rfl ?_
      rw [Phase.aims_setClient]
      exact hpresent
  | refused | passed | toldFiles => exact ha.stay move rfl hpresent
  | _ => exact ha.stay move rfl trivial

theorem aiming_history (inputs : List (Editor × Input)) :
    Aiming (history {} inputs) (run {} inputs).1 :=
  coherent_induction Aiming ⟨fun _ _ => rfl, trivial⟩ (fun _ _ _ _ _ ha move => ha.move move) inputs

theorem Spent.le {k : Nat} {s : Controller} (hs : Spent k s) : k ≤ s.attempts := by
  rcases hs with hlt | ⟨rfl, -⟩
  · exact Nat.le_of_lt hlt
  · exact Nat.le_refl _

theorem Begins.passes {s t : Controller} {new : List Note} (hbegins : s.Begins new t) {k : Nat}
    (hk : k ≤ s.attempts) : k < t.attempts ∨ k = t.attempts ∧ t.phase = .idle := by
  cases hbegins with
  | disabled =>
      rcases Nat.lt_or_eq_of_le hk with hlt | heq
      · exact .inl hlt
      · exact .inr ⟨heq, rfl⟩
  | attempted => exact .inl (Nat.lt_succ_of_le hk)

theorem Begins.spent {s t : Controller} {new : List Note} (hbegins : s.Begins new t) {k : Nat}
    (hk : k ≤ s.attempts) : Spent k t := by
  rcases hbegins.passes hk with hlt | ⟨heq, hidle⟩
  · exact .inl hlt
  · exact .inr ⟨heq, .inl hidle⟩

theorem Spent.move {k : Nat} {s t : Controller} {new : List Note} (hs : Spent k s)
    (move : s.Move new t) : Spent k t := by
  rcases hs with hlt | ⟨rfl, hphase⟩
  · exact .inl (Nat.lt_of_lt_of_le hlt move.attempts_le)
  · have hnot {p : Phase} (h : s.phase = p) (hp : p ≠ .idle) : p.owesOffer = true := by
      rcases hphase with hidle | howes
      · exact absurd (h.symm.trans hidle) hp
      · rwa [h] at howes
    cases move with
    | dismissed prompt => exact .inr ⟨by simp, by simpa using hphase⟩
    | began _ hbegins => exact hbegins.spent (Nat.le_refl _)
    | partedBeginning _ hbegins => exact hbegins.spent (Nat.le_refl _)
    | unreachable | unlaunched | abandoned | parted | partedOffering => exact .inr ⟨rfl, .inl rfl⟩
    | refused | passed | toldFiles => exact .inr ⟨rfl, hphase⟩
    | connected h | shook h | started h => cases hnot h nofun
    | told _ h | closed _ h => cases hnot h nofun
    | parting h | gaveUp h =>
        have howes := hnot h nofun
        exact .inr ⟨rfl, .inr howes⟩
    | served hheld =>
        rcases hphase with hidle | howes
        · rw [hidle] at hheld
          cases hheld
        · exact .inr ⟨rfl, .inr (by simpa using howes)⟩

theorem Move.connected_mem {s t : Controller} {new : List Note} (move : s.Move new t) {k : Nat}
    (hmem : .connected k ∈ new) : ∃ target options, s.phase = .connecting target options := by
  cases move with
  | connected hphase => exact ⟨_, _, hphase⟩
  | began _ hbegins => exact absurd hmem (hbegins.silent k).connected
  | partedBeginning _ hbegins =>
      have hlater := (List.mem_append.mp hmem).resolve_left (by simp [clientNotes])
      exact absurd hlater (hbegins.silent k).connected
  | _ => simp [clientNotes] at hmem

theorem Cause.IsBorneOut.move {cause : Cause} {h new : List Note} {s t : Controller}
    (hb : cause.IsBorneOut h) (hs : Spent cause.attempt s) (move : s.Move new t) :
    cause.IsBorneOut (h ++ new) := by
  have htargets : targetsOf cause.attempt (h ++ new) = targetsOf cause.attempt h := by
    rw [targetsOf_append, move.targets (.inl hs.le), List.append_nil]
  cases cause with
  | dial k address =>
      obtain ⟨htarget, hconnected⟩ := hb
      refine ⟨htargets.trans htarget, ?_⟩
      intro hmem
      rcases List.mem_append.mp hmem with hmem | hmem
      · exact hconnected hmem
      · obtain ⟨target, options, hphase⟩ := move.connected_mem hmem
        rcases hs with hlt | ⟨-, hidle | howes⟩
        · exact (move.silent (Nat.ne_of_lt hlt)).connected hmem
        · cases hphase.symm.trans hidle
        · rw [hphase] at howes
          cases howes
  | loss k address =>
      obtain ⟨htarget, hintroduced⟩ := hb
      refine ⟨htargets.trans htarget, ?_⟩
      rw [clientActs_append]
      exact List.mem_append_left _ hintroduced

theorem Cause.kept {cause : Cause} {h new : List Note} {s t : Controller}
    (hs : Spent cause.attempt s) (hb : cause.IsBorneOut h) (moved : s.Moved new t) :
    Spent cause.attempt t ∧ cause.IsBorneOut (h ++ new) := by
  cases moved with
  | not => exact ⟨hs, by rwa [List.append_nil]⟩
  | once move => exact ⟨hs.move move, hb.move hs move⟩

theorem step_of_unreachable (e : Editor) {s : Controller} {address : Transport.LocalPort}
    {options : Client.Options} (hphase : s.phase = .connecting (.port address) options) {r : Reach}
    (hr : r ≠ .established) : (s.step e (.reached r)).1 = s.offered ∧
      s.notes e (.reached r) =
        [.did (.offered (.ofId s.nextPrompt)), .did (.concluded (.unreachable s.nextPrompt))] := by
  cases r with
  | established => exact absurd rfl hr
  | _ =>
      simp only [notes, noted, step, reached, hphase, Reach.error?]
      exact ⟨rfl, rfl⟩

theorem step_of_loss (e : Editor) {s : Controller} {address : Transport.LocalPort} {c : Client}
    (hphase : s.phase = .active (.port address) c) (hlost : c.isConnected = false) {op : Operation}
    (hop : op.looksForLoss = true) :
    (s.step e (.perform op)).1 = { s with phase := .closing c .dispose .offer } ∧
      s.notes e (.perform op) = [] := by
  have hnotice : s.noticeLoss = ({ s with phase := .closing c .dispose .offer }, []) := by
    simp [noticeLoss, hphase, hlost, Target.isPort]
  cases op with
  | noticeLoss => simp [notes, noted, step, isReady, hphase, perform, hnotice]
  | handle event =>
      cases event with
      | connectionLost => simp [notes, noted, step, isReady, hphase, perform, handle, hnotice]
      | _ => cases hop
  | _ => cases hop

theorem cause?_eq_dial {s : Controller} {i : Input} {k : Nat} {address : Transport.LocalPort}
    (h : s.cause? i = some (.dial k address)) : k = s.attempts ∧ ∃ options r,
      s.phase = .connecting (.port address) options ∧ i = .reached r ∧ r ≠ .established := by
  unfold cause? at h
  split at h
  · split at h
    · rename_i hphase
      split at h
      · cases h
      · rename_i hr
        cases h
        exact ⟨rfl, _, _, hphase, rfl, hr⟩
    · cases h
  · split at h
    · split at h <;> cases h
    · cases h
  · cases h

theorem cause?_eq_loss {s : Controller} {i : Input} {k : Nat} {address : Transport.LocalPort}
    (h : s.cause? i = some (.loss k address)) : k = s.attempts ∧ ∃ c op,
      s.phase = .active (.port address) c ∧ i = .perform op ∧ op.looksForLoss = true ∧
        c.isConnected = false := by
  unfold cause? at h
  split at h
  · split at h
    · split at h <;> cases h
    · cases h
  · split at h
    · rename_i hphase
      split at h
      · rename_i hlooks
        obtain ⟨hop, hlost⟩ := Bool.and_eq_true_iff.mp hlooks
        cases h
        exact ⟨rfl, _, _, hphase, rfl, hop, by simpa using hlost⟩
      · cases h
    · cases h
  · cases h

/-- A cause comes up in an attempt that is not spent, and spends it. -/
theorem cause_step {h : List Note} {s : Controller} (hc : Coherent h s) (ha : Aiming h s)
    (e : Editor) {i : Input} {cause : Cause} (hcause : s.cause? i = some cause) :
    cause.attempt = s.attempts ∧ ¬ Spent s.attempts s ∧ Spent s.attempts (s.step e i).1 ∧
      cause.IsBorneOut (h ++ s.notes e i) := by
  have haims := ha.present
  cases cause with
  | dial k address =>
      obtain ⟨rfl, options, r, hphase, rfl, hr⟩ := cause?_eq_dial hcause
      obtain ⟨hnext, hnotes⟩ := step_of_unreachable e hphase hr
      have hsilent : Silent s.attempts h := hc.describes hphase
      rw [hphase] at haims
      refine ⟨rfl, ?_, ?_, ?_, ?_⟩
      · simp [Spent, hphase, Phase.owesOffer]
      · rw [hnext]
        exact .inr ⟨rfl, .inl rfl⟩
      · rw [hnotes, targetsOf_append, haims]
        rfl
      · rw [hnotes]
        simpa using hsilent.connected
  | loss k address =>
      obtain ⟨rfl, c, op, hphase, rfl, hop, hlost⟩ := cause?_eq_loss hcause
      obtain ⟨hnext, hnotes⟩ := step_of_loss e hphase hlost hop
      obtain ⟨-, -, -, htalked⟩ := hc.describes hphase
      obtain ⟨offer, reports, hsaid, -⟩ := htalked.said
      rw [hphase] at haims
      refine ⟨rfl, ?_, ?_, ?_, ?_⟩
      · simp [Spent, hphase, Phase.owesOffer]
      · rw [hnext]
        exact .inr ⟨rfl, .inr rfl⟩
      · rw [hnotes, List.append_nil]
        exact haims
      · rw [hnotes, List.append_nil]
        have hmem : Client.Message.introduced ∈ Client.said (clientActs s.attempts h) := by
          simp [hsaid]
        obtain ⟨act, hact, hm⟩ := List.mem_filterMap.mp hmem
        unfold Client.Act.said? at hm
        split at hm
        · cases hm
        · cases hm
          exact hact
        · cases hm

theorem causes_append (s : Controller) (before after : List (Editor × Input)) :
    s.causes (before ++ after) = s.causes before ++ (s.run before).1.causes after := by
  induction before generalizing s with
  | nil => rfl
  | cons input before ih =>
      obtain ⟨e, i⟩ := input
      simp [causes, run, ih]

/-- The causes in a run are in attempts of their own, in ascending order, and the history bears all of them
out. -/
theorem causes_run (inputs : List (Editor × Input)) :
    (∀ cause ∈ causes {} inputs, Spent cause.attempt (run {} inputs).1 ∧
      cause.IsBorneOut (history {} inputs)) ∧
    ((causes {} inputs).map Cause.attempt).Pairwise (· < ·) := by
  -- The causes come one at a time, so the induction adds an input at the end: its cause is of an attempt
  -- that was not spent before.
  induction inputs using List.reverseRecOn with
  | nil => exact ⟨nofun, .nil⟩
  | append_singleton inputs input ih =>
      obtain ⟨e, i⟩ := input
      obtain ⟨hall, hascending⟩ := ih
      have hlast : (run {} (inputs ++ [(e, i)])).1 = ((run {} inputs).1.step e i).1 := by
        rw [run_append]
        rfl
      have hnotes : history {} (inputs ++ [(e, i)]) =
          history {} inputs ++ (run {} inputs).1.notes e i := by
        rw [history_append]
        exact congrArg _ (List.append_nil _)
      have hsplit : causes {} (inputs ++ [(e, i)]) =
          causes {} inputs ++ ((run {} inputs).1.cause? i).toList := by
        rw [causes_append]
        exact congrArg _ (List.append_nil _)
      have hkept : ∀ cause ∈ causes {} inputs, Spent cause.attempt ((run {} inputs).1.step e i).1 ∧
          cause.IsBorneOut (history {} inputs ++ (run {} inputs).1.notes e i) := by
        intro cause hcause
        obtain ⟨hspent, hborne⟩ := hall cause hcause
        exact Cause.kept hspent hborne (moved_step e _ i)
      rw [hlast, hnotes, hsplit]
      cases hcause : (run {} inputs).1.cause? i with
      | none => exact ⟨by simpa using hkept, by simpa using hascending⟩
      | some cause =>
          obtain ⟨hattempt, hfresh, hspent, hborne⟩ :=
            cause_step (coherent_history inputs) (aiming_history inputs) e hcause
          constructor
          · intro other hother
            rcases List.mem_append.mp hother with hother | hother
            · exact hkept other hother
            · obtain rfl : other = cause := by simpa using hother
              exact ⟨hattempt ▸ hspent, hborne⟩
          · rw [List.map_append, List.pairwise_append]
            refine ⟨hascending, List.pairwise_singleton _ _, ?_⟩
            intro k hk n hn
            obtain ⟨earlier, hearlier, rfl⟩ := List.mem_map.mp hk
            obtain rfl : n = cause.attempt := by simpa using hn
            have hold := (hall earlier hearlier).1
            refine Nat.lt_of_le_of_ne (hattempt ▸ hold.le) fun heq => hfresh ?_
            rwa [← hattempt, ← heq]

end ServerLink.Controller
