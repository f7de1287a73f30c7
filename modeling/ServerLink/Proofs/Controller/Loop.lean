import ServerLink.Controller.Loop
import ServerLink.Proofs.Controller.Accounting

/-!
The loop over whole runs. What it does is what its controller does upon the inputs that the loop leads to it;
so the offers to recover are accounted for, and where the loop waits no client is left whose connection has
ended.
-/

namespace ServerLink.Controller

namespace Loop

/-- What happens to the controller in a run of the loop. -/
def driven (l : Loop) : List (Editor × Input) → List (Editor × Controller.Input)
  | [] => []
  | (e, i) :: inputs => (l.lead i).2.toList.map (e, ·) ++ (l.step e i).1.driven inputs

def session (e : Editor) (inputs : List (Editor × Input)) : Loop × List Act :=
  let (l, acts) := begin e
  let (l, more) := l.run inputs
  (l, acts ++ more)

def tasks (e : Editor) (inputs : List (Editor × Input)) : List (Editor × Controller.Input) :=
  (e, .perform .restart) :: (begin e).1.driven inputs

/-- The loop waits: it could take an event, but there is none, the reader has nothing more to do, and the
loop itself takes notice of nothing. -/
structure Waits (l : Loop) : Prop where
  running : l.isRunning = true
  ready : l.controller.isReady = true
  empty : l.queue = []
  read : ∀ e k, l.step e (.control (.wind k)) = (l, [])
  noticed : ∀ e, l.step e .noticeLoss = (l, [])

theorem controller_lead (l : Loop) (i : Input) : (l.lead i).1.controller = l.controller := by
  cases i with
  | send event =>
      change (l.send event).controller = l.controller
      unfold send
      split <;> rfl
  | take =>
      change l.take.1.controller = l.controller
      unfold take
      split
      · split
        · split <;> rfl
        · split <;> rfl
      · rfl
  | _ => rfl

theorem controller_step (e : Editor) (l : Loop) (i : Input) :
    (l.step e i).1.controller = (l.controller.run ((l.lead i).2.toList.map (e, ·))).1 ∧
      (l.step e i).2 = (l.controller.run ((l.lead i).2.toList.map (e, ·))).2 := by
  have hsame := l.controller_lead i
  unfold step
  split
  · rename_i m hlead
    rw [hlead] at hsame ⊢
    exact ⟨hsame, rfl⟩
  · rename_i m j hlead
    rw [hlead] at hsame ⊢
    simp [Controller.run, ← hsame]

theorem controller_run (l : Loop) (inputs : List (Editor × Input)) :
    (l.run inputs).1.controller = (l.controller.run (l.driven inputs)).1 ∧
      (l.run inputs).2 = (l.controller.run (l.driven inputs)).2 := by
  induction inputs generalizing l with
  | nil => exact ⟨rfl, rfl⟩
  | cons input inputs ih =>
      obtain ⟨e, i⟩ := input
      obtain ⟨hcontroller, hacts⟩ := controller_step e l i
      obtain ⟨hlast, hmore⟩ := ih (l.step e i).1
      simp only [run, driven, run_append]
      rw [← hcontroller, ← hacts]
      exact ⟨hlast, by rw [hmore]⟩

theorem controller_session (e : Editor) (inputs : List (Editor × Input)) :
    (session e inputs).1.controller = (Controller.run {} (tasks e inputs)).1 ∧
      (session e inputs).2 = (Controller.run {} (tasks e inputs)).2 := by
  obtain ⟨hlast, hmore⟩ := controller_run (begin e).1 inputs
  exact ⟨hlast, congrArg _ hmore⟩

theorem noticeLoss_of_connected {s : Controller}
    (h : ∀ c, s.active? = some c → c.isConnected = true) : s.noticeLoss = (s, []) := by
  cases hphase : s.phase with
  | active target c =>
      have hconnected : c.isConnected = true := h c (by simp [active?, hphase])
      simp [noticeLoss, hphase, hconnected]
  | _ => simp [noticeLoss, hphase]

theorem step_noticeLoss_of_connected (e : Editor) {l : Loop}
    (h : ∀ c, l.controller.active? = some c → c.isConnected = true) :
    l.step e .noticeLoss = (l, []) := by
  have hstep : l.controller.step e (.perform .noticeLoss) = (l.controller, []) := by
    simp only [Controller.step, perform, noticeLoss_of_connected h]
    split <;> rfl
  have hlead : l.lead .noticeLoss = (l, none) ∨
      l.lead .noticeLoss = (l, some (.perform .noticeLoss)) := by
    simp only [lead]
    split
    · exact .inr rfl
    · exact .inl rfl
  unfold step
  rcases hlead with hlead | hlead
  · rw [hlead]
  · rw [hlead]
    simp only [hstep]

theorem Waits.inflow {l : Loop} (hw : l.Waits) (e : Editor) {c : Client}
    (hheld : l.controller.phase.client? = some c) : c.inflow = .running := by
  have hnoticed : (l.controller.step e (.perform .noticeLoss)).1 = l.controller := by
    have hsame := congrArg (·.1.controller) (hw.noticed e)
    simpa [step, lead, hw.running] using hsame
  have hread : (l.controller.step e (.wind l.controller.attempts)).1 = l.controller := by
    have hsame := congrArg (·.1.controller) (hw.read e l.controller.attempts)
    simpa [step, lead, Controller.Input.isInternal] using hsame
  rcases phase_of_isReady hw.ready with hphase | ⟨target, d, hphase⟩
  · simp [hphase, Phase.client?] at hheld
  · obtain rfl : d = c := by simpa [hphase, Phase.client?] using hheld
    have hwind : d.wind = d := by
      have hsame := congrArg Controller.phase hread
      simp only [Controller.step, onClient_of_held hheld, hphase, Phase.setClient] at hsame
      injection hsame
    cases hinflow : d.inflow with
    | running => rfl
    | ended =>
        have hsame := congrArg Client.inflow hwind
        simp [Client.wind, hinflow] at hsame
    | givenUp =>
        have hsame := congrArg Client.inflow hwind
        simp [Client.wind, hinflow] at hsame
    | lost =>
        have hsame := congrArg Controller.phase hnoticed
        simp [Controller.step, isReady, hphase, perform, Controller.noticeLoss, Client.isConnected,
          hinflow] at hsame

end Loop

/-- The client of an attempt is gone, or has read its stream to the end. -/
def Ended (k : Nat) (s : Controller) : Prop :=
  k < s.attempts ∨ k = s.attempts ∧
    (s.phase = .idle ∨ ∃ c, s.phase.client? = some c ∧ c.inflow ≠ .running)

theorem Begins.ended {s t : Controller} {new : List Note} (hbegins : s.Begins new t) {k : Nat}
    (hk : k ≤ s.attempts) : Ended k t := by
  rcases hbegins.passes hk with hlt | ⟨heq, hidle⟩
  · exact .inl hlt
  · exact .inr ⟨heq, .inl hidle⟩

theorem inflow_of_served {c d : Client} {frames : List Json} {acts : List Client.Act}
    (hserved : c.Served frames acts d) (hc : c.inflow ≠ .running) : d.inflow ≠ .running := by
  cases hserved with
  | took frame hrunning => exact absurd hrunning hc
  | ended hrunning => exact absurd hrunning hc
  | wound =>
      unfold Client.wind
      split
      · nofun
      · nofun
      · exact hc
  | jammed => exact hc

theorem Ended.move {k : Nat} {s t : Controller} {new : List Note} (hs : Ended k s)
    (move : s.Move new t) : Ended k t := by
  rcases hs with hlt | ⟨rfl, hphase⟩
  · exact .inl (Nat.lt_of_lt_of_le hlt move.attempts_le)
  · have hheld {c : Client} (h : s.phase.client? = some c) : c.inflow ≠ .running := by
      rcases hphase with hidle | ⟨d, hd, hinflow⟩
      · simp [hidle, Phase.client?] at h
      · rw [hd] at h
        cases h
        exact hinflow
    cases move with
    | dismissed prompt => exact .inr ⟨by simp, by simpa using hphase⟩
    | began _ hbegins => exact hbegins.ended (Nat.le_refl _)
    | partedBeginning _ hbegins => exact hbegins.ended (Nat.le_refl _)
    | refused | passed | toldFiles => exact .inr ⟨rfl, hphase⟩
    | connected h => simp [h, Phase.client?] at hphase
    | shook h hstep =>
        obtain ⟨-, -, hinflow, -⟩ := Client.Handshake.unchanged_step hstep
        refine .inr ⟨rfl, .inr ⟨_, rfl, ?_⟩⟩
        rw [hinflow]
        exact hheld (by rw [h]; rfl)
    | started h hstep =>
        obtain ⟨-, rfl, -⟩ := handshake_done hstep
        exact .inr ⟨rfl, .inr ⟨_, rfl, hheld (by rw [h]; rfl)⟩⟩
    | closed _ h => exact .inr ⟨rfl, .inr ⟨_, rfl, hheld (by rw [h]; rfl)⟩⟩
    | parting h hstep =>
        refine .inr ⟨rfl, .inr ⟨_, rfl, ?_⟩⟩
        rw [(Client.Farewell.unchanged_step hstep).1]
        exact hheld (by rw [h]; rfl)
    | gaveUp h hexpire =>
        refine .inr ⟨rfl, .inr ⟨_, rfl, ?_⟩⟩
        rw [(Client.Farewell.unchanged_expire hexpire).1]
        exact hheld (by rw [h]; rfl)
    | told event h =>
        have hinflow := hheld (c := _) (by rw [h]; rfl)
        exact .inr ⟨rfl, .inr ⟨_, rfl, hinflow⟩⟩
    | served hc hserved =>
        refine .inr ⟨rfl, .inr ⟨_, Phase.client?_setClient hc _, ?_⟩⟩
        exact inflow_of_served hserved (hheld hc)
    | _ => exact .inr ⟨rfl, .inl rfl⟩

theorem Ended.run {k : Nat} {s : Controller} (hs : Ended k s) (inputs : List (Editor × Input)) :
    Ended k (s.run inputs).1 :=
  (moves_history s inputs).keeps Ended.move hs

theorem ended_of_arrive (e : Editor) {s : Controller} {k : Nat} (hhears : s.hears k = true)
    {r : Wire.Reading} (hr : ∀ j, r ≠ .frame j) : Ended k (s.step e (.arrive k r)).1 := by
  obtain ⟨hk, hany⟩ := Bool.and_eq_true_iff.mp hhears
  obtain rfl : k = s.attempts := by simpa using hk
  obtain ⟨c, hc, hrunning⟩ : ∃ c, s.phase.client? = some c ∧ c.inflow = .running := by
    simpa [Option.any_eq_true] using hany
  have harrive : c.arrive r = ({ c with inflow := .ended }, []) := by
    cases r with
    | frame j => exact absurd rfl (hr j)
    | _ => simp [Client.arrive, hrunning]
  refine .inr ?_
  simp only [step, onClient_of_held hc, harrive]
  exact ⟨trivial, .inr ⟨_, Phase.client?_setClient hc _, by simp⟩⟩

theorem prompts_acts (h : List Note) : prompts ((h.filterMap Note.act?).map .did) = prompts h := by
  induction h with
  | nil => rfl
  | cons note h ih =>
      cases note with
      | did act =>
          change prompts ([.did act] ++ (h.filterMap Note.act?).map .did) = prompts ([.did act] ++ h)
          rw [prompts_append, prompts_append, ih]
      | _ => exact ih

namespace Loop

theorem driven_append (l : Loop) (before after : List (Editor × Input)) :
    l.driven (before ++ after) = l.driven before ++ (l.run before).1.driven after := by
  induction before generalizing l with
  | nil => rfl
  | cons input before ih =>
      obtain ⟨e, i⟩ := input
      simp [driven, run, ih]

/-- Once the stream of a client has been read to its end, the client is no longer held where the loop
waits. -/
theorem Waits.later {e : Editor} {before after : List (Editor × Input)} {e' : Editor} {k : Nat}
    {r : Wire.Reading} (hr : ∀ j, r ≠ .frame j)
    (hhears : (session e before).1.controller.hears k = true)
    (hw : (session e (before ++ (e', .control (.arrive k r)) :: after)).1.Waits) {c : Client}
    (hheld : (session e (before ++ (e', .control (.arrive k r)) :: after)).1.controller.phase.client? =
      some c) :
    k < (session e (before ++ (e', .control (.arrive k r)) :: after)).1.controller.attempts := by
  have hinflow := hw.inflow e hheld
  have hsplit : tasks e (before ++ (e', .control (.arrive k r)) :: after) =
      tasks e before ++ (e', .arrive k r) ::
        (((begin e).1.run before).1.step e' (.control (.arrive k r))).1.driven after := by
    simp only [tasks, driven_append, List.cons_append]
    rfl
  obtain ⟨hbefore, -⟩ := controller_session e before
  obtain ⟨hall, -⟩ := controller_session e (before ++ (e', .control (.arrive k r)) :: after)
  rw [hbefore] at hhears
  rw [hall] at hheld ⊢
  rw [hsplit, run_append] at hheld ⊢
  rcases (ended_of_arrive e' hhears hr).run _ with hlt | ⟨-, hidle | ⟨d, hd, hended⟩⟩
  · exact hlt
  · cases hheld.symm.trans (congrArg Phase.client? hidle)
  · cases hheld.symm.trans hd
    exact absurd hinflow hended

/-- The account of a run of the loop. The causes for an offer, ports that could not be reached and active
connections to a port that were found to be lost, are in attempts of their own and borne out by the history;
the offers are made for them, one for each and in their order, but for the one that is due while the client
is still being stopped. Where the loop waits, the client that is held reads its stream and is connected, and
is none whose stream has been read to its end. Looking for a loss where there is none does nothing. -/
theorem offers_accounted (e : Editor) (inputs : List (Editor × Input)) :
    (prompts ((session e inputs).2.map .did) = (offers {} (tasks e inputs)).map Prod.snd ∧
      (causes {} (tasks e inputs)).map Cause.attempt =
        (offers {} (tasks e inputs)).map Prod.fst ++ (session e inputs).1.controller.owed ∧
      ((causes {} (tasks e inputs)).map Cause.attempt).Pairwise (· < ·) ∧
      ∀ cause ∈ causes {} (tasks e inputs), cause.IsBorneOut (history {} (tasks e inputs))) ∧
    ((session e inputs).1.Waits →
      ∀ c, (session e inputs).1.controller.phase.client? = some c → c.isConnected = true ∧
        ∀ before e' k r after, inputs = before ++ (e', .control (.arrive k r)) :: after →
          (∀ j, r ≠ .frame j) → (session e before).1.controller.hears k = true →
          k < (session e inputs).1.controller.attempts) ∧
    ∀ e', (∀ c, (session e inputs).1.controller.active? = some c → c.isConnected = true) →
      (session e inputs).1.controller.handle e' .connectionLost =
        ((session e inputs).1.controller, []) ∧
      (session e inputs).1.step e' .noticeLoss = ((session e inputs).1, []) := by
  obtain ⟨hcontroller, hacts⟩ := controller_session e inputs
  obtain ⟨hborne, hascending⟩ := causes_run (tasks e inputs)
  refine ⟨⟨?_, ?_, hascending, fun cause hcause => (hborne cause hcause).2⟩, ?_, ?_⟩
  · rw [prompts_history, hacts, ← acts_history, prompts_acts]
  · rw [hcontroller]
    exact balanced_run {} (tasks e inputs)
  · intro hw c hheld
    refine ⟨by simp [Client.isConnected, hw.inflow e hheld], ?_⟩
    rintro before e' k r after rfl hr hhears
    exact hw.later hr hhears hheld
  · intro e' hconnected
    exact ⟨noticeLoss_of_connected hconnected, step_noticeLoss_of_connected e' hconnected⟩

/-- Nobody listens at the port; the user tries again, and then the connection is lost. -/
example :
    let e : Editor := { settings := { transport := .socket }, installation := ⟨[]⟩ }
    let answer : Json := .ofFields [("id", .nat 1), ("result", .null)]
    let inputs : List Input := [.control (.reached .failed), .send (.chosen 1 .reconnect), .take,
      .control (.reached .established), .control .proceed, .control .proceed, .control .proceed,
      .control (.arrive 2 (.frame answer)), .control .proceed, .control .proceed, .control .proceed,
      .control (.arrive 2 .ended), .control (.wind 2), .control (.wind 2), .send .connectionLost,
      .take, .control .proceed, .control .proceed, .control .proceed, .control .proceed]
    offers {} (tasks e (inputs.map (e, ·))) = [(1, 1), (2, 2)] := by
  rfl

end Loop

end ServerLink.Controller
