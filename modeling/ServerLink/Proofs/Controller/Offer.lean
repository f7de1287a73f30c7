import ServerLink.Proofs.Controller.Loop

namespace ServerLink.Controller

def Act.offer? : Act → Option Recovery.Prompt
  | .offered prompt => some prompt
  | _ => none

def Event.answer? : Event → Option (Nat × Recovery.Action)
  | .chosen prompt action => some (prompt, action)
  | _ => none

def Loop.inFlight (l : Loop) : List (Nat × Recovery.Action) :=
  l.queue.filterMap Event.answer?

theorem Event.eq_of_answer? {event : Event} {p : Nat} {a : Recovery.Action}
    (h : event.answer? = some (p, a)) : event = .chosen p a := by
  cases event <;> cases h
  rfl

theorem prompts_eq (h : List Note) :
    prompts h = ((h.filterMap Note.act?).filterMap Act.offer?).map Recovery.Prompt.id := by
  rw [← prompts_acts]
  induction h.filterMap Note.act? with
  | nil => rfl
  | cons act acts ih =>
      rw [List.map_cons, ← List.singleton_append, prompts_append, ih]
      cases act <;> rfl

/-- A step of the controller makes no offer, or the next one. -/
theorem offers_step (e : Editor) (s : Controller) (i : Input) :
    ((s.step e i).2.filterMap Act.offer? = [] ∧ (s.step e i).1.nextPrompt = s.nextPrompt ∧
        ((s.step e i).1.outstanding = none ∨ (s.step e i).1.outstanding = s.outstanding)) ∨
      ((s.step e i).2.filterMap Act.offer? = [.ofId s.nextPrompt] ∧
        (s.step e i).1.nextPrompt = s.nextPrompt + 1 ∧
        (s.step e i).1.outstanding = some s.nextPrompt) := by
  have hacts : (s.notes e i).filterMap Note.act? = (s.step e i).2 := by
    simpa [history, run] using acts_history s [(e, i)]
  have hnone {h : List Note} (hprompts : prompts h = []) :
      (h.filterMap Note.act?).filterMap Act.offer? = [] := by
    rw [prompts_eq, List.map_eq_nil_iff] at hprompts
    exact hprompts
  rw [← hacts]
  have hmoved := moved_step e s i
  generalize s.notes e i = new at hmoved ⊢
  generalize (s.step e i).1 = t at hmoved ⊢
  cases hmoved with
  | not => exact .inl ⟨rfl, rfl, .inr rfl⟩
  | once move =>
      rcases move.keeps_or_offers with hkeeps | ⟨rfl, before, after, rfl, hbefore, hafter, -⟩
      · refine .inl ⟨hnone hkeeps.prompts, hkeeps.nextPrompt, ?_⟩
        exact hkeeps.outstanding.imp id And.left
      · refine .inr ⟨?_, rfl, rfl⟩
        rw [List.filterMap_append, List.filterMap_append, hnone hbefore, List.nil_append]
        change _ :: (after.filterMap Note.act?).filterMap Act.offer? = _
        rw [hnone hafter]

theorem outstanding_of_chosen (e : Editor) {s : Controller}
    (hidle : ∀ p, s.outstanding = some p → s.phase = .idle) {p : Nat} (hp : s.outstanding = some p)
    (a : Recovery.Action) : (s.step e (.perform (.handle (.chosen p a)))).1.outstanding = none := by
  have hphase := hidle p hp
  cases a with
  | openSettings =>
      rw [step_openSettings e (by simp [isReady, hphase]), dismiss, if_pos hp]
  | reconnect =>
      have haccepts : Input.accepts p (.perform (.handle (.chosen p .reconnect))) = true := beq_self_eq_true p
      rw [step_accepts e hidle haccepts, if_pos hp]
      exact (outstanding_begin e s).1

/-- What a loop with an open channel leads to its controller, and what is left in the channel then. -/
inductive Loop.Led (l : Loop) : Option Controller.Input → List Event → Prop
  | aside (i : Option Controller.Input) : Led l i l.queue
  | event {event : Event} {queue : List Event} (hqueue : l.queue = event :: queue) :
      Led l (some (.perform (.handle event))) queue
  | last {queue : List Event} (hqueue : l.queue = .shutdown :: queue) : Led l (some (.perform .stop)) queue

/-- What happens to a loop apart from what is put into its channel. -/
def Loop.Input.isInner : Loop.Input → Bool
  | .send _ | .close => false
  | _ => true

theorem Loop.led_lead {l : Loop} (hopen : l.isClosed = false) {i : Loop.Input} (hi : i.isInner = true) :
    l.Led (l.lead i).2 (l.lead i).1.queue ∧ (l.lead i).1.isClosed = false := by
  cases i with
  | send | close => cases hi
  | noticeLoss | control => exact ⟨.aside _, hopen⟩
  | take =>
      simp only [lead, take]
      split
      · split
        · rename_i event queue hqueue
          cases event with
          | shutdown => exact ⟨.last hqueue, hopen⟩
          | _ => exact ⟨.event hqueue, hopen⟩
        · rw [hopen]
          exact ⟨.aside _, hopen⟩
      · exact ⟨.aside _, hopen⟩

theorem Loop.Led.inFlight {l : Loop} {i : Option Controller.Input} {queue : List Event} (h : l.Led i queue) :
    l.inFlight = queue.filterMap Event.answer? ∨
      ∃ p a, i = some (.perform (.handle (.chosen p a))) ∧
        l.inFlight = (p, a) :: queue.filterMap Event.answer? := by
  unfold Loop.inFlight
  cases h with
  | aside => exact .inl rfl
  | last hqueue =>
      rw [hqueue]
      exact .inl rfl
  | @event event _ hqueue =>
      rw [hqueue]
      cases hanswer : event.answer? with
      | none => exact .inl (List.filterMap_cons_none hanswer)
      | some answer =>
          obtain rfl := Event.eq_of_answer? hanswer
          exact .inr ⟨answer.1, answer.2, rfl, List.filterMap_cons_some hanswer⟩

end ServerLink.Controller
