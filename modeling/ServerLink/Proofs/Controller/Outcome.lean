import ServerLink.Proofs.Client.Await
import ServerLink.Proofs.Controller.Move

/-!
How the start of a client ends. The client has introduced itself and awaits the answer: what comes first, the
answer, the end of the stream or the end of the time, decides, and the rest of what happens makes no
difference.
-/

namespace ServerLink.Controller

open Client.Handshake (announced reason)

/-- What decides how a start ends. -/
inductive Verdict where
  | answered (answer : Json)
  /-- The stream has come to its end, or to what cannot be read. -/
  | lost
  | late (limit : Duration)

namespace Verdict

def failure? : Verdict → Option Client.Error
  | .answered answer => (answer.get? "error").map fun error => .rejected (reason error)
  | .lost => some .lost
  | .late limit => some (.unanswered .introduce limit)

/-- The steps that the controller takes until the start has ended. -/
def steps : Verdict → Nat
  | .answered answer => if (answer.get? "error").isSome then 2 else 3
  | .lost => 1
  | .late _ => 0

/-- What an input decides for the client of an attempt, which awaits the answer to a request. -/
def of? (k id : Nat) (limit : Option Duration) (reading : Bool) : Input → Option Verdict
  | .arrive n (.frame frame) =>
      if n = k ∧ reading = true ∧ Rpc.answersTo id frame = true then some (.answered frame) else none
  | .wind n => if n = k ∧ reading = false then some .lost else none
  | .expire => limit.map .late
  | _ => none

/-- Whether the stream of an attempt is still read after an input. -/
def reads (k : Nat) (reading : Bool) : Input → Bool
  | .arrive _ (.frame _) => reading
  | .arrive n _ => reading && n != k
  | _ => reading

/-- The first that decides among inputs. -/
def first? (k id : Nat) (limit : Option Duration) : Bool → List (Editor × Input) → Option Verdict
  | _, [] => none
  | reading, (_, i) :: inputs =>
      match of? k id limit reading i with
      | some v => some v
      | none => first? k id limit (reads k reading i) inputs

end Verdict

def Act.outcome? : Act → Option Outcome
  | .concluded outcome => some outcome
  | _ => none

/-- How the first start in a run ends, and the controller right after it. -/
def ending (s : Controller) : List (Editor × Input) → Option (Outcome × Controller)
  | [] => none
  | (e, i) :: inputs =>
      match (s.step e i).2.findSome? Act.outcome? with
      | some outcome => some (outcome, (s.step e i).1)
      | none => (s.step e i).1.ending inputs

def Input.isProceed : Input → Bool
  | .proceed => true
  | _ => false

def proceeds (inputs : List (Editor × Input)) : Nat :=
  inputs.countP (·.2.isProceed)

/-- The server of an attempt takes all that is written. -/
def Unjammed (k : Nat) (inputs : List (Editor × Input)) : Prop :=
  ∀ input ∈ inputs, input.2 ≠ .jam k

def Input.onto (k : Nat) (c : Client) : Input → Client
  | .arrive n r => if n = k then (c.arrive r).1 else c
  | .wind n => if n = k then c.wind else c
  | .jam n => if n = k then c.jam else c
  | _ => c

/-- How far a handshake is that a verdict decides, with the steps that are left. -/
inductive Stage (id : Nat) : Verdict → Client.Handshake → Client → Nat → Prop
  | lost {c : Client} (h : c.waiting.Fixed id .lost) : Stage id .lost (.await id) c 1
  | told {c : Client} {answer : Json} (h : c.waiting.Fixed id (.answered answer)) :
      Stage id (.answered answer) (.await id) c (Verdict.answered answer).steps
  | rejecting {c : Client} {answer : Json} (h : (answer.get? "error").isSome = true) :
      Stage id (.answered answer) (.settle answer) c 1
  | settling {c : Client} {answer : Json} (h : answer.get? "error" = none) :
      Stage id (.answered answer) (.settle answer) c 2
  | concluding {c : Client} {answer : Json} (h : answer.get? "error" = none)
      (hcapabilities : c.serverCapabilities = announced answer) :
      Stage id (.answered answer) .conclude c 1

/-- The start ends as a verdict has it: with an active client that knows what the server can do, or without a
client and with all else as it was. -/
def Verdict.Ends (v : Verdict) (target : Target) (s : Controller)
    (ending : Option (Outcome × Controller)) : Prop :=
  match v.failure? with
  | some error => ending = some (.failed error, { s with phase := .idle })
  | none => ∃ c, ending = some (.started, { s with phase := .active target c }) ∧
      ∀ answer, v = .answered answer → c.serverCapabilities = announced answer

variable {s t : Controller} {target : Target} {c d : Client} {next : Client.Handshake} {e : Editor}
  {i : Input} {inputs before after : List (Editor × Input)} {v : Verdict} {n k id : Nat} {reading : Bool}

theorem Unjammed.cons {input : Editor × Input} (h : Unjammed k (input :: inputs)) :
    input.2 ≠ .jam k ∧ Unjammed k inputs :=
  List.forall_mem_cons.mp h

theorem outcome?_ofClient (s : Controller) (acts : List Client.Act) :
    (s.ofClient acts).findSome? Act.outcome? = none := by
  simp [ofClient, Act.outcome?, List.findSome?_eq_none_iff]

theorem ending_of_client {acts : List Client.Act} (h : s.step e i = (t, s.ofClient acts)) :
    s.ending ((e, i) :: inputs) = t.ending inputs := by
  rw [ending, h]
  dsimp only
  rw [outcome?_ofClient]

theorem onClient_of_opening (hphase : s.phase = .opening target c next) (attempt : Nat)
    (f : Client → Client × List Client.Act) :
    ∃ acts, s.onClient attempt f = ({ s with
      phase := .opening target (if attempt = s.attempts then (f c).1 else c) next }, s.ofClient acts) := by
  have hsame : { s with phase := .opening target c next } = s := by rw [← hphase]
  have hheld : s.phase.client? = some c := by rw [hphase]; rfl
  by_cases hattempt : attempt = s.attempts
  · subst hattempt
    refine ⟨(f c).2, ?_⟩
    rw [onClient_of_held hheld, hphase, if_pos rfl]
    rfl
  · refine ⟨[], ?_⟩
    rw [onClient_of_not_held fun h => absurd h hattempt, if_neg hattempt, hsame]
    rfl

theorem step_of_opening (hphase : s.phase = .opening target c next) (e : Editor)
    (hproceed : i ≠ .proceed) (hexpire : i ≠ .expire) :
    ∃ acts, s.step e i =
      ({ s with phase := .opening target (i.onto s.attempts c) next }, s.ofClient acts) := by
  have hsame : { s with phase := .opening target c next } = s := by rw [← hphase]
  cases i with
  | perform op =>
      refine ⟨[], ?_⟩
      rw [step, isReady, hphase]
      simp [Input.onto, hsame, ofClient]
  | reached r =>
      refine ⟨[], ?_⟩
      rw [step, reached, hphase]
      simp [Input.onto, hsame, ofClient]
  | proceed => exact absurd rfl hproceed
  | expire => exact absurd rfl hexpire
  | arrive attempt r => exact onClient_of_opening hphase attempt (·.arrive r)
  | wind attempt => exact onClient_of_opening hphase attempt fun c => (c.wind, [])
  | jam attempt => exact onClient_of_opening hphase attempt fun c => (c.jam, [])

theorem step_expire_of_none (hphase : s.phase = .opening target c next) (hexpire : next.expire c = none)
    (e : Editor) : s.step e .expire = (s, s.ofClient []) := by
  rw [step, expire, hphase]
  dsimp only
  rw [hexpire]
  rfl

theorem onto_eq (c : Client) (i : Input) (h : i ≠ .jam k) :
    i.onto k c = { c with waiting := (i.onto k c).waiting, inflow := (i.onto k c).inflow } := by
  unfold Input.onto
  split
  · split
    · exact c.arrive_eq _
    · rfl
  · split
    · exact c.wind_eq
    · rfl
  · rename_i attempt
    rw [if_neg (fun heq => h (by rw [heq]))]
  · rfl

theorem fixed_onto {state : Rpc.Waiting.State} (h : c.waiting.Fixed id state) (i : Input) :
    (i.onto k c).waiting.Fixed id state := by
  unfold Input.onto
  split
  · split
    · exact Client.fixed_arrive h _
    · exact h
  · split
    · exact Client.fixed_wind h
    · exact h
  · split
    · exact h
    · exact h
  · exact h

theorem writable_onto (h : c.writable = true) (hjam : i ≠ .jam k) : (i.onto k c).writable = true := by
  rw [onto_eq c i hjam]
  exact h

namespace Stage

theorem onto (h : Stage id v next c n) (hjam : i ≠ .jam k) : Stage id v next (i.onto k c) n := by
  cases h with
  | lost h => exact .lost (fixed_onto h i)
  | told h => exact .told (fixed_onto h i)
  | rejecting h => exact .rejecting h
  | settling h => exact .settling h
  | concluding h hcapabilities =>
      refine .concluding h ?_
      rw [onto_eq c i hjam]
      exact hcapabilities

theorem expire_eq (h : Stage id v next c n) : next.expire c = none := by
  cases h with
  | lost h | told h => simp [Client.Handshake.expire, h.state_eq]
  | _ => rfl

theorem pos (h : Stage id v next c n) : 0 < n := by
  cases h with
  | told h =>
      simp only [Verdict.steps]
      split <;> decide
  | _ => exact Nat.succ_pos _

end Stage

theorem ends_failed {error : Client.Error} (hfailure : v.failure? = some error)
    (hphase : s.phase = .opening target c next) (hstep : next.step c = (.failed error, [])) :
    v.Ends target s (s.ending ((e, .proceed) :: inputs)) := by
  have hproceed : s.step e .proceed =
      ({ s with phase := .idle }, s.ofClient [.hungUp] ++ [.concluded (.failed error)]) := by
    rw [step, proceed, hphase]
    dsimp only
    rw [hstep]
    dsimp only
    rw [abandon_eq (handshake_failed hstep).2]
    rfl
  unfold Verdict.Ends
  rw [hfailure]
  dsimp only
  rw [ending, hproceed]
  rfl

theorem step_proceed_of_next {acts : List Client.Act} {next' : Client.Handshake}
    (hphase : s.phase = .opening target c next) (hstep : next.step c = (.next d next', acts)) (e : Editor) :
    s.step e .proceed = ({ s with phase := .opening target d next' }, s.ofClient acts) := by
  rw [step, proceed, hphase]
  dsimp only
  rw [hstep]

/-- Once it is decided how a start ends, it ends so when the controller goes on, whatever else happens. -/
theorem ends_of_stage (hphase : s.phase = .opening target c next) (hstage : Stage id v next c n)
    (hwritable : c.writable = true) (hjam : Unjammed s.attempts inputs) (hn : n ≤ proceeds inputs) :
    v.Ends target s (s.ending inputs) := by
  -- Each step of the handshake uses up one of the `n`; what else happens leaves the stage as it is.
  induction inputs generalizing s c next n with
  | nil => exact absurd hn (Nat.not_le.mpr hstage.pos)
  | cons input inputs ih =>
      obtain ⟨e, i⟩ := input
      obtain ⟨hi, hrest⟩ := hjam.cons
      by_cases hproceed : i = .proceed
      · subst hproceed
        have hn : n ≤ proceeds inputs + 1 := by simpa [proceeds, Input.isProceed] using hn
        cases hstage with
        | lost h =>
            refine ends_failed rfl hphase ?_
            rw [Client.Handshake.step, h.state_eq]
        | @told _ answer h =>
            have hnext : (Client.Handshake.await id).step c = (.next c (.settle answer), []) := by
              rw [Client.Handshake.step, h.state_eq]
            rw [ending_of_client (step_proceed_of_next hphase hnext e)]
            cases herror : answer.get? "error" with
            | some error =>
                refine ih rfl (.rejecting (by rw [herror]; rfl)) hwritable hrest ?_
                rw [Verdict.steps, herror] at hn
                exact Nat.le_of_succ_le_succ hn
            | none =>
                refine ih rfl (.settling herror) hwritable hrest ?_
                rw [Verdict.steps, herror] at hn
                exact Nat.le_of_succ_le_succ hn
        | @rejecting _ answer h =>
            obtain ⟨error, herror⟩ := Option.isSome_iff_exists.mp h
            have hfailure : (Verdict.answered answer).failure? = some (.rejected (reason error)) := by
              rw [Verdict.failure?, herror]
              rfl
            apply ends_failed hfailure hphase
            rw [Client.Handshake.step, herror]
        | @settling _ answer h =>
            obtain ⟨acts, hnext⟩ : ∃ acts, (Client.Handshake.settle answer).step c =
                (.next (Client.Handshake.setUp c (announced answer)) .conclude, acts) := by
              rw [Client.Handshake.step, h]
              exact ⟨_, rfl⟩
            rw [ending_of_client (step_proceed_of_next hphase hnext e)]
            exact ih rfl (.concluding h rfl) hwritable hrest (Nat.le_of_succ_le_succ hn)
        | @concluding _ answer h hcapabilities =>
            have hstep : s.step e .proceed = ({ s with phase := .active target c },
                s.ofClient [.wrote .introduced] ++ [.concluded .started]) := by
              rw [step, proceed, hphase]
              simp [Client.Handshake.step, hwritable]
            unfold Verdict.Ends
            rw [Verdict.failure?, h]
            dsimp only [Option.map_none]
            refine ⟨c, ?_, ?_⟩
            · rw [ending, hstep]
              rfl
            · rintro _ ⟨⟩
              exact hcapabilities
      · have hn : n ≤ proceeds inputs := by
          cases i <;> first | exact absurd rfl hproceed | simpa [proceeds, Input.isProceed] using hn
        by_cases hexpire : i = .expire
        · subst hexpire
          rw [ending_of_client (step_expire_of_none hphase hstage.expire_eq e)]
          exact ih hphase hstage hwritable hrest hn
        · obtain ⟨acts, hstep⟩ := step_of_opening hphase e hproceed hexpire
          rw [ending_of_client hstep]
          exact ih rfl (hstage.onto hi) (writable_onto hwritable hi) hrest hn

theorem awaits_onto {limit : Option Duration} (h : c.Awaits id reading) (hjam : i ≠ .jam k)
    (hv : Verdict.of? k id limit reading i = none) :
    (i.onto k c).Awaits id (Verdict.reads k reading i) := by
  cases i with
  | arrive attempt r =>
      by_cases hattempt : attempt = k
      · subst hattempt
        simp only [Input.onto, if_true]
        cases r with
        | frame frame =>
            refine h.passed fun hreading => ?_
            by_contra hanswer
            rw [Verdict.of?, if_pos ⟨rfl, hreading, by simpa using hanswer⟩] at hv
            cases hv
        | error fault => simpa [Verdict.reads] using h.ended (r := .error fault) nofun
        | ended => simpa [Verdict.reads] using h.ended (r := .ended) nofun
      · rw [Input.onto, if_neg hattempt]
        have hreads : Verdict.reads k reading (.arrive attempt r) = reading := by
          cases r <;> simp [Verdict.reads, hattempt]
        rwa [hreads]
  | wind attempt =>
      by_cases hattempt : attempt = k
      · subst hattempt
        cases reading with
        | true => simpa [Input.onto, h.wind_of_reading, Verdict.reads] using h
        | false => simp [Verdict.of?] at hv
      · rw [Input.onto, if_neg hattempt]
        exact h
  | jam attempt =>
      have hattempt : attempt ≠ k := fun heq => hjam (by rw [heq])
      rw [Input.onto, if_neg hattempt]
      exact h
  | _ => exact h

theorem stage_onto {limit : Option Duration} (h : c.Awaits id reading) (hexpire : i ≠ .expire)
    (hv : Verdict.of? k id limit reading i = some v) : Stage id v (.await id) (i.onto k c) v.steps := by
  cases i with
  | arrive attempt r =>
      cases r with
      | frame frame =>
          rw [Verdict.of?] at hv
          split at hv
          · rename_i hanswer
            obtain ⟨rfl, rfl, hanswer⟩ := hanswer
            cases hv
            simp only [Input.onto, if_true]
            exact .told (h.answered hanswer)
          · cases hv
      | _ => cases hv
  | wind attempt =>
      rw [Verdict.of?] at hv
      split at hv
      · rename_i hwind
        obtain ⟨rfl, rfl⟩ := hwind
        cases hv
        simp only [Input.onto, if_true]
        exact .lost h.wind_of_ended
      · cases hv
  | expire => exact absurd rfl hexpire
  | _ => cases hv

theorem step_of_undecided (hphase : s.phase = .opening target c (.await id)) (h : c.Awaits id reading)
    (hjam : i ≠ .jam s.attempts) (hv : Verdict.of? s.attempts id c.options.timeout reading i = none)
    (e : Editor) :
    ∃ d acts, s.step e i = ({ s with phase := .opening target d (.await id) }, s.ofClient acts) ∧
      d.Awaits id (Verdict.reads s.attempts reading i) ∧ d.options = c.options ∧
      d.writable = c.writable := by
  have hsame : { s with phase := .opening target c (.await id) } = s := by rw [← hphase]
  by_cases hproceed : i = .proceed
  · subst hproceed
    have hwaits : (Client.Handshake.await id).step c = (.waits, []) := by
      rw [Client.Handshake.step, h.awaited]
    refine ⟨c, [], ?_, h, rfl, rfl⟩
    rw [step, proceed, hphase]
    dsimp only
    rw [hwaits, hsame]
  · by_cases hexpire : i = .expire
    · subst hexpire
      have hnever : c.options.timeout = none := Option.map_eq_none_iff.mp hv
      refine ⟨c, [], ?_, h, rfl, rfl⟩
      rw [hsame]
      apply step_expire_of_none hphase
      rw [Client.Handshake.expire, hnever]
    · obtain ⟨acts, hstep⟩ := step_of_opening hphase e hproceed hexpire
      refine ⟨_, acts, hstep, awaits_onto h hjam hv, ?_, ?_⟩
      · rw [onto_eq c i hjam]
      · rw [onto_eq c i hjam]

theorem ends_late {limit : Duration} (hphase : s.phase = .opening target c (.await id)) (h : c.Awaits id reading)
    (hlimit : c.options.timeout = some limit) :
    (Verdict.late limit).Ends target s (s.ending ((e, .expire) :: inputs)) := by
  have hstep : s.step e .expire = ({ s with phase := .idle },
      s.ofClient [.hungUp] ++ [.concluded (.failed (.unanswered .introduce limit))]) := by
    rw [step, expire, hphase]
    dsimp only
    rw [Client.Handshake.expire, hlimit, h.awaited]
    exact abandon_eq fun _ => Client.Error.noConfusion
  change s.ending _ = some (_, _)
  rw [ending, hstep]
  rfl

theorem ending_of_undecided (hphase : s.phase = .opening target c (.await id)) (h : c.Awaits id reading)
    (hjam : Unjammed s.attempts inputs)
    (hv : Verdict.first? s.attempts id c.options.timeout reading inputs = none) :
    s.ending inputs = none ∧ ∃ d, (s.run inputs).1 = { s with phase := .opening target d (.await id) } := by
  induction inputs generalizing s c reading with
  | nil => exact ⟨rfl, c, by rw [← hphase]; rfl⟩
  | cons input inputs ih =>
      obtain ⟨e, i⟩ := input
      obtain ⟨hi, hrest⟩ := hjam.cons
      rw [Verdict.first?] at hv
      cases hof : Verdict.of? s.attempts id c.options.timeout reading i with
      | some v =>
          rw [hof] at hv
          cases hv
      | none =>
          rw [hof] at hv
          obtain ⟨d, acts, hstep, hd, hoptions, -⟩ := step_of_undecided hphase h hi hof e
          obtain ⟨hending, hlast⟩ := ih (s := { s with phase := .opening target d (.await id) }) rfl hd hrest
            (by rw [hoptions]; exact hv)
          rw [ending_of_client hstep, run, hstep]
          exact ⟨hending, hlast⟩

theorem ends_of_verdict (hphase : s.phase = .opening target c (.await id)) (h : c.Awaits id reading)
    (hwritable : c.writable = true) (hjam : Unjammed s.attempts (before ++ after))
    (hv : Verdict.first? s.attempts id c.options.timeout reading before = some v)
    (hn : v.steps ≤ proceeds after) : v.Ends target s (s.ending (before ++ after)) := by
  induction before generalizing s c reading with
  | nil => cases hv
  | cons input before ih =>
      obtain ⟨e, i⟩ := input
      obtain ⟨hi, hrest⟩ := Unjammed.cons hjam
      rw [Verdict.first?] at hv
      cases hof : Verdict.of? s.attempts id c.options.timeout reading i with
      | none =>
          rw [hof] at hv
          obtain ⟨d, acts, hstep, hd, hoptions, hsame⟩ := step_of_undecided hphase h hi hof e
          rw [List.cons_append, ending_of_client hstep]
          exact ih (s := { s with phase := .opening target d (.await id) }) rfl hd (hsame.trans hwritable)
            hrest (by rw [hoptions]; exact hv)
      | some w =>
          rw [hof] at hv
          cases hv
          by_cases hexpire : i = .expire
          · subst hexpire
            obtain ⟨limit, hlimit, rfl⟩ := Option.map_eq_some_iff.mp hof
            exact ends_late hphase h hlimit
          · have hproceed : i ≠ .proceed := by
              rintro rfl
              cases hof
            have hmany : v.steps ≤ proceeds (before ++ after) := by
              rw [proceeds, List.countP_append]
              exact Nat.le_trans hn (Nat.le_add_left _ _)
            obtain ⟨acts, hstep⟩ := step_of_opening hphase e hproceed hexpire
            rw [List.cons_append, ending_of_client hstep]
            exact ends_of_stage rfl (stage_onto h hexpire hof) (writable_onto hwritable hi) hrest hmany

/-- What happens from the start of a client until it has introduced itself. -/
def introduction (e e' : Editor) : List (Editor × Input) :=
  (e, .perform .start) :: [.reached .established, .proceed, .proceed, .proceed].map (e', ·)

theorem run_introduction (hphase : s.phase = .idle) (e' : Editor) {uri : Option String}
    (htarget : Target.ofEditor? e = some target)
    (huri : Client.Handshake.rootUri? (optionsFor e) = .ok uri) :
    ∃ c, (s.run (introduction e e')).1 = { s with
          phase := .opening target c (.await 1), attempts := s.attempts + 1, outstanding := none } ∧
      (s.run (introduction e e')).2.findSome? Act.outcome? = none ∧
      c.Awaits 1 true ∧ c.writable = true ∧ c.options = optionsFor e := by
  let c : Client := { options := optionsFor e, features }
  let offer := Client.Handshake.offer c uri
  let opened (c : Client) (next : Client.Handshake) : Controller :=
    { s with phase := .opening target c next, attempts := s.attempts + 1, outstanding := none }
  let reaching : Controller :=
    { s with phase := .connecting target (optionsFor e), attempts := s.attempts + 1, outstanding := none }
  have hbegin : s.step e (.perform .start) = (reaching, [.attempted (s.attempts + 1) target]) := by
    simp [step, isReady, hphase, perform, active?, begin, htarget, reaching]
  have hreached : reaching.step e' (.reached .established) = (opened c .prepare, []) := rfl
  have hprepare : Client.Handshake.prepare.step c =
      (.next c (.enter offer), Client.Handshake.callAll c .contribute) := by
    rw [Client.Handshake.step, huri]
  have hprepared : (opened c .prepare).step e' .proceed = (opened c (.enter offer),
      (opened c .prepare).ofClient (Client.Handshake.callAll c .contribute)) :=
    step_proceed_of_next rfl hprepare e'
  have hentered : (opened c (.enter offer)).step e' .proceed = (opened c.enter.2 (.write 1 offer), []) := rfl
  have hwritten : (opened c.enter.2 (.write 1 offer)).step e' .proceed = (opened c.enter.2 (.await 1),
      (opened c .prepare).ofClient [.wrote (.introduce 1 offer)]) := rfl
  have hrun : s.run (introduction e e') = (opened c.enter.2 (.await 1),
      .attempted (s.attempts + 1) target :: ((opened c .prepare).ofClient
        (Client.Handshake.callAll c .contribute) ++
          (opened c .prepare).ofClient [.wrote (.introduce 1 offer)])) := by
    simp only [introduction, List.map, run, hbegin, hreached, hprepared, hentered, hwritten,
      List.nil_append, List.append_nil, List.singleton_append]
  rw [hrun]
  refine ⟨c.enter.2, rfl, ?_, ⟨rfl, rfl⟩, rfl, rfl⟩
  rw [List.findSome?_cons_of_isNone rfl, List.findSome?_append, outcome?_ofClient, outcome?_ofClient]
  rfl

theorem ending_append (h : (s.run before).2.findSome? Act.outcome? = none) :
    s.ending (before ++ after) = (s.run before).1.ending after := by
  induction before generalizing s with
  | nil => rfl
  | cons input before ih =>
      obtain ⟨e, i⟩ := input
      rw [run, List.findSome?_append] at h
      obtain ⟨hfirst, hrest⟩ := Option.or_eq_none_iff.mp h
      rw [List.cons_append, ending, hfirst]
      exact ih hrest

/-- How a start ends. A server was reached by a way that the settings name, and takes all that is written to it.
Once the client has introduced itself, the first value on the stream that answers decides, the end of the
stream or what cannot be read where that is noticed before, or the end of the time where that comes before.
Whatever else arrives, and in whatever order the parties go on, the start ends as it is decided, and it does
not end before. So it is in any state in which the client awaits the answer. -/
theorem start_ends_as_decided :
    (∀ (s : Controller) (e e' : Editor) (target : Target) (uri : Option String)
      (inputs : List (Editor × Input)),
      s.phase = .idle → Target.ofEditor? e = some target →
      Client.Handshake.rootUri? (optionsFor e) = .ok uri → Unjammed (s.attempts + 1) inputs →
      let started := { s with attempts := s.attempts + 1, outstanding := none }
      let first := Verdict.first? (s.attempts + 1) 1 e.settings.handshakeTimeout true
      (first inputs = none → s.ending (introduction e e' ++ inputs) = none) ∧
      ∀ before after v, inputs = before ++ after → first before = some v → v.steps ≤ proceeds after →
        v.Ends target started (s.ending (introduction e e' ++ inputs))) ∧
    ∀ (s : Controller) (target : Target) (c : Client) (id : Nat) (inputs : List (Editor × Input)),
      s.phase = .opening target c (.await id) → c.Awaits id true → c.writable = true →
      Unjammed s.attempts inputs →
      let first := Verdict.first? s.attempts id c.options.timeout true
      (first inputs = none → s.ending inputs = none) ∧
      ∀ before after v, inputs = before ++ after → first before = some v → v.steps ≤ proceeds after →
        v.Ends target s (s.ending inputs) := by
  have hawaiting (s : Controller) (target : Target) (c : Client) (id : Nat)
      (inputs : List (Editor × Input)) (hphase : s.phase = .opening target c (.await id))
      (hawaits : c.Awaits id true) (hwritable : c.writable = true) (hjam : Unjammed s.attempts inputs) :
      let first := Verdict.first? s.attempts id c.options.timeout true
      (first inputs = none → s.ending inputs = none) ∧
      ∀ before after v, inputs = before ++ after → first before = some v → v.steps ≤ proceeds after →
        v.Ends target s (s.ending inputs) := by
    constructor
    · intro hv
      exact (ending_of_undecided hphase hawaits hjam hv).1
    · rintro before after v rfl hv hn
      exact ends_of_verdict hphase hawaits hwritable hjam hv hn
  refine ⟨?_, hawaiting⟩
  intro s e e' target uri inputs hphase htarget huri hjam
  obtain ⟨c, hrun, hquiet, hawaits, hwritable, hoptions⟩ := run_introduction hphase e' htarget huri
  obtain ⟨hundecided, hdecided⟩ := hawaiting (s.run (introduction e e')).1 target c 1 inputs
    (by rw [hrun]) hawaits hwritable (by rw [hrun]; exact hjam)
  rw [ending_append hquiet]
  rw [hrun, hoptions] at hundecided hdecided
  rw [hrun]
  exact ⟨hundecided, hdecided⟩

/-- Values that look like the answer to the first request, and are not. -/
def lookalikes : List Json :=
  [.ofFields [("id", .string "1"), ("result", .null)], .ofFields [("id", .nat 2), ("result", .null)],
    .ofFields [("id", .nat 1), ("method", .string "ping"), ("result", .null)], .ofFields [("id", .nat 1)],
    .array [.nat 1]]

/-- What happens in one editor to the first client, which waits for ten seconds. -/
def tenSeconds : Editor := { settings := { handshakeSeconds := some 10 }, installation := ⟨[]⟩ }

def sent (frames : List Json) : List (Editor × Input) :=
  frames.map fun frame => (tenSeconds, .arrive 1 (.frame frame))

/-- The server hangs up, and the controller goes on, but for a while. -/
def hungUpOn : List (Editor × Input) :=
  [.arrive 1 .ended, .wind 1, .wind 1, .proceed, .expire, .proceed, .proceed].map (tenSeconds, ·)

theorem start_ends_as_decided_lookalikes :
    let answer : Json := .ofFields [("id", .nat 1), ("method", .null),
      ("result", .ofFields [("capabilities", .bool true)])]
    let refusal : Json := .ofFields [("id", .nat 1), ("result", .null), ("error", .string "no")]
    let outcome (inputs : List (Editor × Input)) := ending {} (introduction tenSeconds tenSeconds ++ inputs)
    (∃ target c, outcome (sent (lookalikes ++ [answer, refusal]) ++ hungUpOn) =
      some (.started, { phase := .active target c, attempts := 1 }) ∧ c.serverCapabilities = .bool true) ∧
    outcome (sent (lookalikes ++ [refusal, answer]) ++ hungUpOn) =
      some (.failed (.rejected "unknown error"), { attempts := 1 }) ∧
    outcome (sent lookalikes ++ hungUpOn) = some (.failed .lost, { attempts := 1 }) ∧
    outcome (sent lookalikes ++ (tenSeconds, .expire) :: sent [answer]) =
      some (.failed (.unanswered .introduce ⟨10000⟩), { attempts := 1 }) ∧
    outcome (sent lookalikes) = none := by
  intro answer refusal outcome
  have hsent (frames : List Json) : Unjammed 1 (sent frames) := by
    intro input hinput
    obtain ⟨frame, -, rfl⟩ := List.mem_map.mp hinput
    exact nofun
  have hungUp : Unjammed 1 hungUpOn := by
    intro input hinput
    obtain ⟨i, hi, rfl⟩ := List.mem_map.mp hinput
    rintro rfl
    simp at hi
  have hdecided (inputs : List (Editor × Input)) (hjam : Unjammed 1 inputs) :=
    start_ends_as_decided.1 {} tenSeconds tenSeconds _ none inputs rfl rfl rfl hjam
  have happend {frames : List Json} {inputs : List (Editor × Input)} (h : Unjammed 1 inputs) :
      Unjammed 1 (sent frames ++ inputs) := fun input hinput =>
    (List.mem_append.mp hinput).elim (hsent frames input) (h input)
  refine ⟨?_, ?_, ?_, ?_, ?_⟩
  · obtain ⟨c, hending, hcapabilities⟩ :=
      (hdecided _ (happend hungUp)).2 (sent (lookalikes ++ [answer, refusal])) hungUpOn (.answered answer) rfl rfl
        (by decide)
    exact ⟨_, c, hending, hcapabilities answer rfl⟩
  · exact (hdecided _ (happend hungUp)).2 (sent (lookalikes ++ [refusal, answer])) hungUpOn (.answered refusal)
      rfl rfl (by decide)
  · exact (hdecided _ (happend hungUp)).2 (sent lookalikes ++ hungUpOn.take 2) (hungUpOn.drop 2) .lost rfl rfl
      (by decide)
  · exact (hdecided _ (happend (List.forall_mem_cons.mpr ⟨fun h => (by cases h), hsent [answer]⟩))).2
      (sent lookalikes ++ [(tenSeconds, .expire)]) (sent [answer]) (.late ⟨10000⟩) rfl rfl (by decide)
  · exact (hdecided _ (hsent lookalikes)).1 rfl

end ServerLink.Controller
