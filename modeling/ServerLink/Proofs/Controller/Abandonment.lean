import Mathlib.Data.List.Induction
import ServerLink.Proofs.Controller.Coherence

/-!
What becomes of the first request once the reader has given up all requests that waited. Giving up comes
once: a request that was entered by then is told, but one that is entered later is never told, and without
a limit of time it is awaited for good.
-/

namespace ServerLink

def Client.hasGivenUp (c : Client) : Bool :=
  c.inflow == .givenUp || c.inflow == .lost

theorem Client.waiting_of_served {c d : Client} {frames : List Json} {acts : List Act}
    (hserved : c.Served frames acts d) (hgone : c.hasGivenUp = true) :
    d.hasGivenUp = true ∧ d.waiting = c.waiting ∧ d.options = c.options := by
  have hinflow : c.inflow = .givenUp ∨ c.inflow = .lost := by
    simpa [hasGivenUp] using hgone
  cases hserved with
  | took frame hrunning => rcases hinflow with h | h <;> rw [h] at hrunning <;> cases hrunning
  | ended hrunning => rcases hinflow with h | h <;> rw [h] at hrunning <;> cases hrunning
  | wound =>
      unfold wind
      rcases hinflow with h | h <;> simp [h, hasGivenUp]
  | jammed => exact ⟨hgone, rfl, rfl⟩

theorem Client.pending_of_served {c d : Client} {frames : List Json} {acts : List Act}
    (hserved : c.Served frames acts d) (hyet : c.hasGivenUp = false) (hgone : d.hasGivenUp = true) :
    d.waiting.pending = [] := by
  cases hserved with
  | took frame hrunning =>
      have hsame : (c.dispatch frame).1.inflow = c.inflow := by
        unfold dispatch
        split <;> rfl
      simp [hasGivenUp, hsame, hrunning] at hgone
  | ended => simp [hasGivenUp] at hgone
  | wound =>
      unfold wind at hgone ⊢
      split at hgone <;> rename_i hinflow
      · rfl
      · simp [hasGivenUp, hinflow] at hyet
      · rw [hyet] at hgone
        cases hgone
  | jammed =>
      have hsame : c.jam.hasGivenUp = c.hasGivenUp := rfl
      rw [hsame, hyet] at hgone
      cases hgone

namespace Controller

/-- Whether the first request is about to be entered after all requests have been given up. -/
def Phase.entersLate : Phase → Bool
  | .opening _ c (.enter _) => c.hasGivenUp
  | _ => false

/-- The first request on the last connection was entered after all requests had been given up. -/
def EnteredLate (inputs : List (Editor × Input)) : Prop :=
  ∃ before after, inputs = before ++ after ∧
    (run {} before).1.attempts = (run {} inputs).1.attempts ∧
    (run {} before).1.phase.entersLate = true

theorem Phase.eq_of_setClient_opening {p : Phase} {c d : Client} {target : Target}
    {next : Client.Handshake} (h : p.setClient c = .opening target d next) :
    c = d ∧ ∃ before, p = .opening target before next := by
  cases p with
  | opening =>
      cases h
      exact ⟨rfl, _, rfl⟩
  | _ => cases h

theorem Phase.eq_of_setClient_connecting {p : Phase} {c : Client} {target : Target}
    {options : Client.Options} (h : p.setClient c = .connecting target options) :
    p = .connecting target options := by
  cases p with
  | connecting => exact h
  | _ => cases h

theorem Moves.attempts_le {s t : Controller} {h : List Note} (moves : s.Moves h t) :
    s.attempts ≤ t.attempts :=
  moves.keeps (fun hle move => Nat.le_trans hle move.attempts_le) (Nat.le_refl _)

/-- A handshake goes on where it stood, or it begins on a connection that is new. -/
theorem Move.opening {s t : Controller} {new : List Note} (move : s.Move new t) {target : Target}
    {d : Client} {next : Client.Handshake} (hphase : t.phase = .opening target d next) :
    t.attempts = s.attempts ∧
      ((∃ options, s.phase = .connecting target options ∧ next = .prepare) ∨
        (∃ c now acts, s.phase = .opening target c now ∧ now.step c = (.next d next, acts)) ∨
        ∃ c frames acts, s.phase = .opening target c next ∧ c.Served frames acts d) := by
  cases move with
  | refused hactive => cases hactive.symm.trans hphase
  | dismissed prompt hready =>
      rw [phase_dismiss] at hphase
      simp [isReady, hphase] at hready
  | began _ hbegins => cases hbegins <;> cases hphase
  | connected hconnecting =>
      cases hphase
      exact ⟨rfl, .inl ⟨_, hconnecting, rfl⟩⟩
  | shook hopening hstep =>
      cases hphase
      exact ⟨rfl, .inr (.inl ⟨_, _, _, hopening, hstep⟩)⟩
  | partedBeginning _ hbegins => cases hbegins <;> cases hphase
  | served hheld hserved =>
      obtain ⟨rfl, before, hopening⟩ := Phase.eq_of_setClient_opening hphase
      rw [hopening] at hheld
      cases hheld
      exact ⟨rfl, .inr (.inr ⟨_, _, _, hopening, hserved⟩)⟩
  | passed _ hactive => cases hactive.symm.trans hphase
  | toldFiles _ hactive => cases hactive.symm.trans hphase
  | _ => cases hphase

theorem Move.connecting {s t : Controller} {new : List Note} (move : s.Move new t) {target : Target}
    {options : Client.Options} (hphase : t.phase = .connecting target options) :
    s.attempts < t.attempts := by
  cases move with
  | refused hactive => cases hactive.symm.trans hphase
  | dismissed prompt hready =>
      rw [phase_dismiss] at hphase
      simp [isReady, hphase] at hready
  | began _ hbegins =>
      cases hbegins with
      | disabled => cases hphase
      | attempted => exact Nat.lt_succ_self _
  | partedBeginning _ hbegins =>
      cases hbegins with
      | disabled => cases hphase
      | attempted => exact Nat.lt_succ_self _
  | served hheld =>
      rw [Phase.eq_of_setClient_connecting hphase] at hheld
      cases hheld
  | passed _ hactive => cases hactive.symm.trans hphase
  | toldFiles _ hactive => cases hactive.symm.trans hphase
  | _ => cases hphase

theorem enteredLate_concat (inputs : List (Editor × Input)) (input : Editor × Input) :
    EnteredLate (inputs ++ [input]) ↔
      ((run {} (inputs ++ [input])).1.attempts = (run {} inputs).1.attempts ∧ EnteredLate inputs) ∨
        (run {} (inputs ++ [input])).1.phase.entersLate = true := by
  have hlast : (run {} inputs).1.attempts ≤ (run {} (inputs ++ [input])).1.attempts := by
    rw [run_append]
    exact (moves_history _ [input]).attempts_le
  constructor
  · rintro ⟨before, after, hsplit, hattempts, hlate⟩
    rcases List.eq_nil_or_concat after with rfl | ⟨after, final, rfl⟩
    · rw [List.append_nil] at hsplit
      rw [← hsplit] at hlate
      exact .inr hlate
    · rw [List.concat_eq_append, ← List.append_assoc] at hsplit
      obtain ⟨rfl, -⟩ := List.append_inj' hsplit rfl
      have hfirst : (run {} before).1.attempts ≤ (run {} (before ++ after)).1.attempts := by
        rw [run_append]
        exact (moves_history _ after).attempts_le
      exact .inl ⟨by omega, before, after, rfl, by omega, hlate⟩
  · rintro (⟨hattempts, before, after, rfl, hbefore, hlate⟩ | hlate)
    · exact ⟨before, after ++ [input], by simp, by omega, hlate⟩
    · exact ⟨_, [], by simp, rfl, hlate⟩

/-- What the phase says of how the first request was entered. -/
def Phase.Punctual (late : Prop) : Phase → Prop
  | .connecting .. => ¬ late
  | .opening _ _ .prepare => ¬ late
  | .opening _ c (.enter _) => late ↔ c.hasGivenUp = true
  | .opening _ c (.write id _) => late ↔ c.hasGivenUp = true ∧ id ∈ c.waiting.pending
  | .opening _ c (.await id) => late ↔ c.hasGivenUp = true ∧ id ∈ c.waiting.pending
  | _ => True

theorem punctual_shook {late : Prop} {target : Target} {c d : Client}
    {now next : Client.Handshake} {acts : List Client.Act}
    (hp : (Phase.opening target c now).Punctual late) (hstep : now.step c = (.next d next, acts)) :
    (Phase.opening target d next).Punctual
      (late ∨ (Phase.opening target d next).entersLate = true) := by
  cases now <;> simp only [Client.Handshake.step] at hstep
  case prepare =>
    split at hstep <;> cases hstep
    simp only [Phase.Punctual, Phase.entersLate] at hp ⊢
    simp [hp]
  case enter offer =>
    cases hstep
    have hsame : c.enter.2.hasGivenUp = c.hasGivenUp := rfl
    have hentered : c.nextId ∈ c.enter.2.waiting.pending := List.mem_cons_self
    simp only [Phase.Punctual, Phase.entersLate, Client.enter] at hp hsame hentered ⊢
    simp [hp, hsame, hentered]
  case write id offer =>
    split at hstep <;> cases hstep
    simpa [Phase.Punctual, Phase.entersLate] using hp
  case await =>
    split at hstep <;> cases hstep
    trivial
  case settle =>
    split at hstep <;> cases hstep
    trivial
  case conclude => split at hstep <;> cases hstep

theorem punctual_served {late : Prop} {target : Target} {c d : Client} {next : Client.Handshake}
    {frames : List Json} {acts : List Client.Act}
    (hp : (Phase.opening target c next).Punctual late) (hserved : c.Served frames acts d) :
    (Phase.opening target d next).Punctual
      (late ∨ (Phase.opening target d next).entersLate = true) := by
  have henter (offer : Client.Offer) (hlate : late ↔ c.hasGivenUp = true) :
      late ∨ d.hasGivenUp = true ↔ d.hasGivenUp = true := by
    rw [hlate]
    constructor
    · rintro (hgone | hgone)
      · exact (Client.waiting_of_served hserved hgone).1
      · exact hgone
    · exact .inr
  have hawaited (id : Nat) (hlate : late ↔ c.hasGivenUp = true ∧ id ∈ c.waiting.pending) :
      late ∨ false = true ↔ d.hasGivenUp = true ∧ id ∈ d.waiting.pending := by
    rw [hlate]
    cases hgone : c.hasGivenUp with
    | true =>
        obtain ⟨hafter, hwaiting, -⟩ := Client.waiting_of_served hserved hgone
        simp [hafter, hwaiting]
    | false =>
        -- If the requests are given up now, the one that waits is among them.
        have hnot : ¬ (d.hasGivenUp = true ∧ id ∈ d.waiting.pending) := by
          rintro ⟨hafter, hid⟩
          rw [Client.pending_of_served hserved hgone hafter] at hid
          cases hid
        simp [hnot]
  cases next with
  | prepare => simpa [Phase.Punctual, Phase.entersLate] using hp
  | enter offer => exact henter offer hp
  | write id offer => exact hawaited id hp
  | await id => exact hawaited id hp
  | settle => trivial
  | conclude => trivial

theorem Phase.Punctual.stay {late : Prop} {p : Phase} (hp : p.Punctual late) :
    p.Punctual (late ∨ p.entersLate = true) := by
  have hsame (h : late ∨ false = true) : late := by simpa using h
  cases p with
  | connecting => exact fun h => hp (hsame h)
  | opening target c next =>
      cases next with
      | prepare => exact fun h => hp (hsame h)
      | enter =>
          have hiff : late ↔ c.hasGivenUp = true := hp
          constructor
          · rintro (hlate | hgone)
            · exact hiff.mp hlate
            · exact hgone
          · exact .inr
      | write => exact ⟨fun h => hp.mp (hsame h), fun h => .inl (hp.mpr h)⟩
      | await => exact ⟨fun h => hp.mp (hsame h), fun h => .inl (hp.mpr h)⟩
      | settle | conclude => trivial
  | _ => trivial

theorem Phase.Punctual.moved {late : Prop} {s t : Controller} {new : List Note}
    (hp : s.phase.Punctual late) (moved : s.Moved new t) :
    t.phase.Punctual ((t.attempts = s.attempts ∧ late) ∨ t.phase.entersLate = true) := by
  cases moved with
  | not => simpa only [true_and] using hp.stay
  | once move =>
      cases hphase : t.phase with
      | connecting target options =>
          have hlt := move.connecting hphase
          simp [Phase.Punctual, Phase.entersLate, Nat.ne_of_gt hlt]
      | opening target d next =>
          obtain ⟨hattempts, hfrom⟩ := move.opening hphase
          simp only [hattempts, true_and]
          rcases hfrom with ⟨options, hs, rfl⟩ | ⟨c, now, acts, hs, hstep⟩ |
            ⟨c, frames, acts, hs, hserved⟩
          · simpa [hs, Phase.Punctual, Phase.entersLate] using hp
          · exact punctual_shook (hs ▸ hp) hstep
          · exact punctual_served (hs ▸ hp) hserved
      | _ => trivial

theorem punctual_run (inputs : List (Editor × Input)) :
    (run {} inputs).1.phase.Punctual (EnteredLate inputs) := by
  induction inputs using List.reverseRecOn with
  | nil => trivial
  | append_singleton inputs input ih =>
      obtain ⟨e, i⟩ := input
      have hlast : (run {} (inputs ++ [(e, i)])).1 = ((run {} inputs).1.step e i).1 := by
        rw [run_append]
        rfl
      rw [propext (enteredLate_concat inputs (e, i)), hlast]
      exact ih.moved (moved_step e _ i)

/-- The controller awaits an answer that nobody will give and that is not limited in time. -/
def Stuck (target : Target) (id : Nat) (s : Controller) : Prop :=
  ∃ c, s.phase = .opening target c (.await id) ∧ c.hasGivenUp = true ∧ c.options.timeout = none ∧
    id ∈ c.waiting.pending ∧ c.waiting.state id = .awaited

theorem Stuck.move {target : Target} {id : Nat} {s t : Controller} {new : List Note}
    (hs : Stuck target id s) (move : s.Move new t) : Stuck target id t := by
  obtain ⟨c, hphase, hgone, htimeout, hid, hawaited⟩ := hs
  have hstep : (Client.Handshake.await id).step c = (.waits, []) := by
    simp [Client.Handshake.step, hawaited]
  cases move with
  | refused hactive => cases hphase.symm.trans hactive
  | dismissed prompt hready => simp [isReady, hphase] at hready
  | shook hopening hnext =>
      cases hphase.symm.trans hopening
      rw [hstep] at hnext
      cases hnext
  | started hopening hnext =>
      cases hphase.symm.trans hopening
      rw [hstep] at hnext
      cases hnext
  | abandoned error hopening hcause =>
      cases hphase.symm.trans hopening
      rcases hcause with hfailed | hexpire
      · rw [hstep] at hfailed
        cases hfailed
      · simp [Client.Handshake.expire, htimeout] at hexpire
  | served hheld hserved =>
      rw [hphase] at hheld
      cases hheld
      obtain ⟨hafter, hwaiting, hoptions⟩ := Client.waiting_of_served hserved hgone
      refine ⟨_, by rw [hphase]; rfl, hafter, by rw [hoptions]; exact htimeout, ?_, ?_⟩
      · rw [hwaiting]
        exact hid
      · rw [hwaiting]
        exact hawaited
  | began hother | connected hother | unreachable hother | parting hother | gaveUp hother
  | parted hother | partedOffering hother | partedBeginning hother =>
      cases hphase.symm.trans hother
  | unlaunched _ hother | closed _ hother | passed _ hother | told _ hother | toldFiles _ hother =>
      cases hphase.symm.trans hother

theorem stuck_of_pending {inputs : List (Editor × Input)} {target : Target} {c : Client} {id : Nat}
    (hphase : (run {} inputs).1.phase = .opening target c (.await id))
    (hgone : c.hasGivenUp = true) (htimeout : c.options.timeout = none)
    (hid : id ∈ c.waiting.pending) : Stuck target id (run {} inputs).1 := by
  obtain ⟨-, hcourse⟩ := (coherent_history inputs).describes hphase
  refine ⟨c, hphase, hgone, htimeout, hid, ?_⟩
  unfold Rpc.Waiting.state
  split
  · rename_i n body hfind
    obtain rfl : n = id := by simpa using List.find?_some hfind
    exact absurd hid (hcourse.sound.settled n body (List.mem_of_find?_eq_some hfind))
  · simp [hid]

/-- Once all requests have been given up, the first request still waits if and only if it was entered after
that. If it was entered in time, the wait ends with the next step, by an answer that had come before or by
the error that tells of the lost connection. If it was entered late and there is no limit of time, nothing
ever ends the wait. -/
theorem first_request_after_loss {inputs : List (Editor × Input)} {target : Target} {c : Client}
    {id : Nat} (hphase : (run {} inputs).1.phase = .opening target c (.await id))
    (hgone : c.hasGivenUp = true) :
    (id ∈ c.waiting.pending ↔ EnteredLate inputs) ∧
    (¬ EnteredLate inputs → ∀ e,
      (∃ body, ((run {} inputs).1.step e .proceed).1.phase = .opening target c (.settle body)) ∨
      ((run {} inputs).1.step e .proceed).1.phase = .idle ∧
        .concluded (.failed .lost) ∈ ((run {} inputs).1.step e .proceed).2) ∧
    (EnteredLate inputs → c.options.timeout = none → ∀ later, ∃ d,
      (run {} (inputs ++ later)).1.phase = .opening target d (.await id) ∧
        id ∈ d.waiting.pending) := by
  have hlate : id ∈ c.waiting.pending ↔ EnteredLate inputs := by
    have hpunctual := punctual_run inputs
    rw [hphase] at hpunctual
    have hiff : EnteredLate inputs ↔ c.hasGivenUp = true ∧ id ∈ c.waiting.pending := hpunctual
    simpa [hgone] using hiff.symm
  refine ⟨hlate, ?_, ?_⟩
  · intro hintime e
    rw [← hlate] at hintime
    simp only [step, proceed, hphase, Client.Handshake.step]
    cases hstate : c.waiting.state id with
    | answered body => exact .inl ⟨body, rfl⟩
    | awaited =>
        unfold Rpc.Waiting.state at hstate
        split at hstate
        · cases hstate
        · simp [hintime] at hstate
    | lost => exact .inr ⟨rfl, by simp [abandon, fail]⟩
  · intro hentered htimeout later
    have hstuck := stuck_of_pending hphase hgone htimeout (hlate.mpr hentered)
    obtain ⟨d, hd, -, -, hid, -⟩ := (moves_history _ later).keeps Stuck.move hstuck
    rw [run_append]
    exact ⟨d, hd, hid⟩

/-- A server that hangs up at once, while the client is about to introduce itself: all that happens in
one editor with the default settings. -/
def hastyInputs (beforeLoss afterLoss : List Input) : List (Editor × Input) :=
  let connect : List Input := [.perform .start, .reached .established]
  let lose : List Input := [.arrive 1 .ended, .wind 1, .wind 1]
  (connect ++ beforeLoss ++ lose ++ afterLoss).map (⟨{}, ⟨[]⟩, none, 0⟩, ·)

theorem first_request_after_loss_in_time :
    ∃ target c, (run {} (hastyInputs [.proceed, .proceed, .proceed] [])).1.phase =
        .opening target c (.await 1) ∧ c.hasGivenUp = true ∧
      ¬ EnteredLate (hastyInputs [.proceed, .proceed, .proceed] []) ∧
      ((run {} (hastyInputs [.proceed, .proceed, .proceed] [])).1.step ⟨{}, ⟨[]⟩, none, 0⟩
        .proceed).1.phase = .idle := by
  have hphase : (run {} (hastyInputs [.proceed, .proceed, .proceed] [])).1.phase =
      .opening _ _ (.await 1) := rfl
  obtain ⟨hpending, hends, -⟩ := first_request_after_loss hphase rfl
  have hintime : ¬ EnteredLate (hastyInputs [.proceed, .proceed, .proceed] []) := by
    rw [← hpending]
    nofun
  refine ⟨_, _, hphase, rfl, hintime, ?_⟩
  rcases hends hintime ⟨{}, ⟨[]⟩, none, 0⟩ with ⟨body, hbody⟩ | ⟨hidle, -⟩
  · cases hbody
  · exact hidle

/-- The reader has finished, and the first request is awaited without a limit of time for good. -/
theorem hasty_server_is_awaited :
    ∃ target c, (run {} (hastyInputs [] [.proceed, .proceed, .proceed])).1.phase =
        .opening target c (.await 1) ∧
      c.inflow = .lost ∧ c.options.timeout = none ∧ 1 ∈ c.waiting.pending ∧
      ∀ later, ∃ d, (run {} (hastyInputs [] [.proceed, .proceed, .proceed] ++ later)).1.phase =
        .opening target d (.await 1) ∧ 1 ∈ d.waiting.pending := by
  have hphase : (run {} (hastyInputs [] [.proceed, .proceed, .proceed])).1.phase =
      .opening _ _ (.await 1) := rfl
  have hid : 1 ∈ [1] := List.mem_singleton.mpr rfl
  refine ⟨_, _, hphase, rfl, rfl, hid, ?_⟩
  intro later
  have hstuck := stuck_of_pending hphase rfl rfl hid
  obtain ⟨d, hd, -, -, hpending, -⟩ := (moves_history _ later).keeps Stuck.move hstuck
  rw [run_append]
  exact ⟨d, hd, hpending⟩

end Controller

end ServerLink
