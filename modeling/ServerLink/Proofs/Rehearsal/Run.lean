import ServerLink.Proofs.Controller.Order
import ServerLink.Proofs.Terminal.Reload
import ServerLink.Rehearsal.Evening
import ServerLink.Rehearsal.Programme

namespace ServerLink

namespace Controller

/-- What the clients do stands among what the controller does. -/
theorem clientActs_did_acts (k : Nat) (h : List Note) :
    clientActs k ((h.filterMap Note.act?).map .did) = clientActs k h := by
  induction h with
  | nil => rfl
  | cons note h ih =>
      cases note with
      | did act =>
          change clientActs k (.did act :: (h.filterMap Note.act?).map .did) = _
          simp only [clientActs, List.filterMap_cons] at ih ⊢
          rw [ih]
      | _ => exact ih

end Controller

namespace Rehearsal

open ServerLink.Controller

/-- What steps do until all is quiet, they do one after another. -/
theorem untilQuiet_induction {σ α : Type} {R : σ → List α → σ → Prop} (hrefl : ∀ s, R s [] s)
    (htrans : ∀ {s t u acts more}, R s acts t → R t more u → R s (acts ++ more) u)
    {step : σ → Option (σ × List α)} (hstep : ∀ {s t acts}, step s = some (t, acts) → R s acts t)
    (n : Nat) (s : σ) : R s (untilQuiet step n s).2 (untilQuiet step n s).1 := by
  induction n generalizing s with
  | zero => exact hrefl s
  | succ n ih =>
      unfold untilQuiet
      split
      · exact hrefl s
      · rename_i hs
        exact htrans (hstep hs) (ih _)

namespace Performance

/-- From one performance to another the controller has gone through a run. -/
def Plays (p : Performance) (acts : List Act) (q : Performance) : Prop :=
  ∃ inputs, p.controller.run inputs = (q.controller, acts)

theorem Plays.refl (p : Performance) : p.Plays [] p :=
  ⟨[], rfl⟩

theorem Plays.trans {p q r : Performance} {acts more : List Act} (first : p.Plays acts q)
    (second : q.Plays more r) : p.Plays (acts ++ more) r := by
  obtain ⟨inputs, hinputs⟩ := first
  obtain ⟨later, hlater⟩ := second
  exact ⟨inputs ++ later, by rw [run_append, hinputs, hlater]⟩

theorem plays_happen (p : Performance) (i : Input) : p.Plays (p.happen i).2 (p.happen i).1 :=
  ⟨[(p.editor, i)], by simp [Controller.run, happen]⟩

theorem plays_step {p q : Performance} {acts : List Act} (hstep : p.step = some (q, acts)) :
    p.Plays acts q := by
  obtain ⟨⟨i, stage⟩, -, hstep⟩ := Option.map_eq_some_iff.mp hstep
  cases hstep
  exact plays_happen { p with stage } i

theorem plays_settle (p : Performance) : p.Plays p.settle.2 p.settle.1 :=
  untilQuiet_induction Plays.refl Plays.trans plays_step bound p

theorem plays_ask (p : Performance) (op : Operation) : p.Plays (p.ask op).2 (p.ask op).1 :=
  (plays_happen p (.perform op)).trans (plays_settle _)

theorem plays_attend (p : Performance) : p.Plays p.attend.2 p.attend.1 := by
  refine untilQuiet_induction Plays.refl Plays.trans ?_ bound p
  intro p q acts hstep
  split at hstep <;> cases hstep
  exact plays_ask p .noticeLoss

theorem plays_follow (p : Performance) (made : Nat) (cues : List Cue) :
    p.Plays (p.follow made cues).2.2 (p.follow made cues).2.1 := by
  induction cues generalizing p made with
  | nil => exact plays_ask p .stop
  | cons cue cues ih =>
      cases cue with
      | use settings => exact ih { p with editor := { p.editor with settings } } made
      | event needed e =>
          unfold follow
          split
          · exact .refl p
          · split
            · exact ((plays_ask p (.handle e)).trans (plays_attend _)).trans (ih ..)
            · exact plays_ask p .stop

/-- Whatever the servers answer and whatever comes from the editor, a performance is a run of the controller. -/
theorem plays_run (p : Performance) (cues : List Cue) :
    p.Plays (p.run cues).2.2 (p.run cues).2.1 :=
  ((plays_ask p .restart).trans (plays_attend _)).trans (plays_follow ..)

/-- So what holds of all runs holds of all performances: on every connection the servers are told everything in
order. -/
theorem inOrder_run {p : Performance} (hp : p.controller = {}) (cues : List Cue) (k : Nat) :
    Client.InOrder (Client.said (clientActs k ((p.run cues).2.2.map .did))) := by
  obtain ⟨inputs, hinputs⟩ := p.plays_run cues
  rw [hp] at hinputs
  have hacts : (p.run cues).2.2 = (history {} inputs).filterMap Note.act? := by
    rw [acts_history, hinputs]
  rw [hacts, clientActs_did_acts]
  exact (coherent_history inputs).inOrder k

end Performance

open ServerLink.Terminal

namespace Evening

/-- From one moment of an evening to another the session has gone through a run. -/
def Plays (e : Evening) (acts : List Session.Act) (f : Evening) : Prop :=
  ∃ inputs, e.session.run inputs = (f.session, acts)

theorem Plays.refl (e : Evening) : e.Plays [] e :=
  ⟨[], rfl⟩

theorem Plays.trans {e f g : Evening} {acts more : List Session.Act} (first : e.Plays acts f)
    (second : f.Plays more g) : e.Plays (acts ++ more) g := by
  obtain ⟨inputs, hinputs⟩ := first
  obtain ⟨later, hlater⟩ := second
  exact ⟨inputs ++ later, by rw [Session.run_append, hinputs, hlater]⟩

theorem plays_happen (e : Evening) (i : Session.Input) : e.Plays (e.happen i).2 (e.happen i).1 :=
  ⟨[i], by simp [Session.run, happen]⟩

theorem plays_step {e f : Evening} {acts : List Session.Act} (hstep : e.step = some (f, acts)) :
    e.Plays acts f := by
  unfold step at hstep
  split at hstep
  · rename_i i stage _
    cases hstep
    exact plays_happen { e with stage } (.control i)
  · obtain ⟨i, -, hstep⟩ := Option.map_eq_some_iff.mp hstep
    cases hstep
    exact plays_happen e i

theorem plays_untilQuiet (e : Evening) :
    e.Plays (untilQuiet step bound e).2 (untilQuiet step bound e).1 :=
  untilQuiet_induction Plays.refl Plays.trans plays_step bound e

theorem plays_play (e : Evening) (i : Session.Input) : e.Plays (e.play i).2 (e.play i).1 :=
  (plays_happen e i).trans (plays_untilQuiet _)

theorem plays_playScene (e : Evening) (s : Scene) :
    e.Plays (e.playScene s).2.1 (e.playScene s).1 := by
  cases s with
  | input i => exact plays_play e i
  | unreadable => exact plays_play e .endInput
  | direct f => exact plays_untilQuiet { e with stage := e.stage.direct f }

theorem plays_playScenes (e : Evening) (scenes : List Scene) :
    e.Plays (e.playScenes scenes).2.1 (e.playScenes scenes).1 := by
  induction scenes generalizing e with
  | nil => exact .refl e
  | cons s scenes ih => exact (plays_playScene e s).trans (ih _)

theorem plays_playAll (e : Evening) (parts : List (List Scene)) :
    e.Plays (e.playAll parts).2.1.flatten (e.playAll parts).1 := by
  induction parts generalizing e with
  | nil =>
      have hend := plays_play e .endInput
      simpa [playAll] using hend
  | cons a parts ih => exact (plays_playScenes e a).trans (ih _)

/-- Whatever the servers answer and whatever comes from the terminal, an evening is a run of the session. -/
theorem run_of_evening (shell : Shell) (process : Nat) (stage : Stage) (parts : List (List Scene)) :
    let first := Session.begin shell process
    let opening := begin shell process stage
    let evening := opening.1.playAll parts
    ∃ inputs, (first.1.run inputs).1 = evening.1.session ∧
      first.2 ++ (first.1.run inputs).2 = opening.2 ++ evening.2.1.flatten := by
  intro first opening evening
  obtain ⟨inputs, hinputs⟩ := (plays_untilQuiet ⟨first.1, first.2.foldl hear stage⟩).trans
    (plays_playAll opening.1 parts)
  refine ⟨inputs, congrArg Prod.fst hinputs, ?_⟩
  rw [show first.1.run inputs = _ from hinputs, ← List.append_assoc]
  rfl

end Evening

end Rehearsal

end ServerLink
