import ServerLink.Proofs.Controller.Offer
import ServerLink.Terminal.Session
import ServerLink.Terminal.Startup

/-!
Offers to recover at the terminal. While an offer can be accepted the terminal asks for it, or an answer is on
its way from the shell to the controller. Each offer is answered once at most, with an action that was shown.
-/

namespace ServerLink.Terminal

open Controller (Loop)

/-- The question that the terminal asks is about an offer. -/
def Host.asks (h : Host) (prompt : Recovery.Prompt) : Prop :=
  h.question = some (.recovery prompt)

theorem Host.choose_cases (h : Host) (n : Nat) :
    h.choose n = (none, h) ∨
      (∃ prompt a, h.asks prompt ∧ a ∈ prompt.actions ∧
        h.choose n = (some (.recovery prompt.id a), { h with question := none })) ∨
      ∃ a, h.question = some .notice ∧ h.choose n = (some (.notice a), { h with question := none }) := by
  unfold choose
  split
  · exact .inl rfl
  · rename_i choice hchoice
    obtain ⟨question, hquestion, hoption⟩ := Option.bind_eq_some_iff.mp hchoice
    unfold option? at hoption
    split at hoption
    · cases hoption
    · cases question with
      | recovery prompt =>
          obtain ⟨a, ha, rfl⟩ := Option.map_eq_some_iff.mp hoption
          exact .inr (.inl ⟨prompt, a, hquestion, List.mem_of_getElem? ha, rfl⟩)
      | notice =>
          obtain ⟨a, -, rfl⟩ := Option.map_eq_some_iff.mp hoption
          exact .inr (.inr ⟨a, hquestion, rfl⟩)

theorem Host.question_post (h : Host) (m : Panel.Message) : (h.post m).2.question = h.question := by
  unfold post
  dsimp only
  split
  · rfl
  · split <;> rfl

theorem Host.question_closeLatest (h : Host) : h.closeLatest.2.question = h.question := by
  unfold closeLatest
  split <;> rfl

namespace Session

def heldAnswer? (s : Session) : Option (Nat × Recovery.Action) :=
  s.held.bind (·.answer?)

/-- The answer that the user gives in a step. -/
def takes? (s : Session) : Input → Option (Nat × Recovery.Action)
  | .line text =>
      if s.isPrompt then
        match Command.parse text with
        | .choose n =>
            match (s.shell.host.choose n).1 with
            | some (.recovery prompt action) => some (prompt, action)
            | _ => none
        | _ => none
      else none
  | _ => none

/-- The answers that are added in a step to those in the channel. -/
def sends (s : Session) (i : Input) : List (Nat × Recovery.Action) :=
  (s.step i).1.loop.inFlight.drop s.loop.inFlight.length

def taken (s : Session) : List Input → List (Nat × Recovery.Action)
  | [] => []
  | i :: inputs => (s.takes? i).toList ++ (s.step i).1.taken inputs

def sent (s : Session) : List Input → List (Nat × Recovery.Action)
  | [] => []
  | i :: inputs => s.sends i ++ (s.step i).1.sent inputs

/-- An offer, and the lines in which the terminal shows it. -/
def showing (prompt : Recovery.Prompt) : List Act :=
  .controller (.offered prompt) ::
    (prompt.message :: Host.optionLines (prompt.actions.map (·.label))).map .printed

/-- Where the offers and the answers to them are, after the acts of a session and with the answers that were
given and sent in it. -/
structure Answerable (acts : List Act) (taken sent : List (Nat × Recovery.Action)) (s : Session) : Prop where
  offering : ∃ h, Controller.Offering h s.controller
  isOpen : s.loop.isClosed = false
  /-- An offer that can be accepted is asked about, or an answer to it is on its way. -/
  standing : ∀ p, s.controller.outstanding = some p → s.shell.host.asks (.ofId p) ∨
    ∃ a, s.heldAnswer? = some (p, a) ∨ (p, a) ∈ s.loop.inFlight
  /-- The question is about the last offer, which has not been answered. -/
  asked : ∀ prompt, s.shell.host.asks prompt → prompt.id + 1 = s.controller.nextPrompt ∧
    showing prompt <:+: acts ∧ ∀ answer ∈ taken, answer.1 < prompt.id
  earlier : ∀ answer ∈ taken, answer.1 < s.controller.nextPrompt
  once : (taken.map Prod.fst).Nodup
  shown : ∀ answer ∈ taken, ∃ prompt, showing prompt <:+: acts ∧ prompt.id = answer.1 ∧
    answer.2 ∈ prompt.actions
  account : taken = sent ++ s.heldAnswer?.toList
  flight : ∃ received, sent = received ++ s.loop.inFlight

variable {acts : List Act} {given put : List (Nat × Recovery.Action)} {s t : Session}

theorem infix_append {shown : List Act} (h : shown <:+: acts) (new : List Act) : shown <:+: acts ++ new :=
  h.trans (List.prefix_append acts new).isInfix

theorem Answerable.shown_append (h : Answerable acts given put s) (new : List Act) :
    ∀ answer ∈ given, ∃ prompt, showing prompt <:+: acts ++ new ∧ prompt.id = answer.1 ∧
      answer.2 ∈ prompt.actions := by
  intro answer hanswer
  obtain ⟨prompt, hshown, hprompt⟩ := h.shown answer hanswer
  exact ⟨prompt, infix_append hshown new, hprompt⟩

/-- Nothing happens to the offers and the answers to them. -/
structure Same (s t : Session) : Prop where
  asks : ∀ prompt, t.shell.host.asks prompt ↔ s.shell.host.asks prompt
  heldAnswer? : t.heldAnswer? = s.heldAnswer?
  controller : t.controller = s.controller
  isClosed : t.loop.isClosed = s.loop.isClosed
  inFlight : t.loop.inFlight = s.loop.inFlight

theorem Same.trans {u : Session} (first : s.Same t) (second : t.Same u) : s.Same u := by
  constructor
  · intro prompt
    exact (second.asks prompt).trans (first.asks prompt)
  · exact second.heldAnswer?.trans first.heldAnswer?
  · exact second.controller.trans first.controller
  · exact second.isClosed.trans first.isClosed
  · exact second.inFlight.trans first.inFlight

theorem Answerable.same (h : Answerable acts given put s) (hsame : s.Same t) (new : List Act) :
    Answerable (acts ++ new) given put t := by
  obtain ⟨hasks, hheld, hcontroller, hclosed, hflight⟩ := hsame
  constructor
  · rw [hcontroller]
    exact h.offering
  · rw [hclosed]
    exact h.isOpen
  · intro p hp
    rw [hcontroller] at hp
    rw [hasks, hheld, hflight]
    exact h.standing p hp
  · intro prompt hprompt
    obtain ⟨hlast, hoffered, hearlier⟩ := h.asked prompt ((hasks prompt).mp hprompt)
    rw [hcontroller]
    exact ⟨hlast, infix_append hoffered new, hearlier⟩
  · rw [hcontroller]
    exact h.earlier
  · exact h.once
  · exact h.shown_append new
  · rw [hheld]
    exact h.account
  · rw [hflight]
    exact h.flight

theorem inFlight_send {l : Loop} (hopen : l.isClosed = false) (event : Controller.Event) :
    (l.send event).inFlight = l.inFlight ++ event.answer?.toList := by
  rw [Loop.send, hopen]
  cases h : event.answer? <;> simp [Loop.inFlight, List.filterMap_append, h]

theorem same_of_host (h : ∀ prompt, t.shell.host.asks prompt ↔ s.shell.host.asks prompt)
    (hheld : t.heldAnswer? = s.heldAnswer?) (hloop : t.loop = s.loop) : s.Same t := by
  refine ⟨h, hheld, ?_, ?_, ?_⟩
  · rw [controller, controller, hloop]
  · rw [hloop]
  · rw [hloop]

theorem same_advance (hopen : s.loop.isClosed = false) (reload : Reload) : s.Same (s.advance reload).1 := by
  cases reload with
  | tell =>
      unfold advance
      dsimp only
      split
      · refine ⟨fun _ => Iff.rfl, rfl, ?_, ?_, ?_⟩
        · exact Controller.Loop.controller_lead s.loop (.send .settingsChanged)
        · simp [Loop.send, hopen]
        · simp [inFlight_send hopen, Controller.Event.answer?]
      · exact same_of_host (fun _ => Iff.rfl) rfl rfl
  | load =>
      unfold advance
      generalize Shell.loadSettings s.shell.environment s.shell.tree = loaded
      exact same_of_host (fun _ => Iff.rfl) rfl rfl
  | none | set => exact same_of_host (fun _ => Iff.rfl) rfl rfl

theorem execute_quiet (shell : Shell) {c : Command} (hc : ∀ n, c ≠ .choose n) :
    (shell.execute c).1.host.question = shell.host.question ∧
      (shell.execute c).2.event.bind Controller.Event.answer? = none := by
  cases c with
  | choose n => exact absurd rfl (hc n)
  | document action path =>
      simp only [Shell.execute]
      split <;> exact ⟨rfl, rfl⟩
  | post m =>
      simp only [Shell.execute]
      split <;> exact ⟨Host.question_post _ _, rfl⟩
  | closePanel =>
      simp only [Shell.execute]
      split <;> exact ⟨Host.question_closeLatest _, rfl⟩
  | _ => exact ⟨rfl, rfl⟩

theorem held_of_isPrompt (h : s.isPrompt = true) : s.held = none := by
  simp only [isPrompt, Bool.and_eq_true, Option.isNone_iff_eq_none] at h
  exact h.1.2

theorem Answerable.answer (h : Answerable acts given put s) (hheld : s.held = none)
    {prompt : Recovery.Prompt} {a : Recovery.Action} (hasks : s.shell.host.asks prompt)
    (ha : a ∈ prompt.actions) (ht : ∀ other, ¬t.shell.host.asks other)
    (hanswer : t.heldAnswer? = some (prompt.id, a)) (hloop : t.loop = s.loop) :
    Answerable acts (given ++ [(prompt.id, a)]) put t := by
  obtain ⟨hlast, hoffered, hearlier⟩ := h.asked prompt hasks
  have hsnone : s.heldAnswer? = none := by rw [heldAnswer?, hheld]; rfl
  have hcontroller : t.controller = s.controller := congrArg Loop.controller hloop
  constructor
  · rw [hcontroller]
    exact h.offering
  · rw [hloop]
    exact h.isOpen
  · intro p hp
    rw [hcontroller] at hp
    rcases h.standing p hp with hasked | ⟨b, hb | hb⟩
    · obtain rfl : prompt = .ofId p := by
        rw [Host.asks, hasks] at hasked
        cases hasked
        rfl
      exact .inr ⟨a, .inl hanswer⟩
    · rw [hsnone] at hb
      cases hb
    · exact .inr ⟨b, .inr (by rwa [hloop])⟩
  · intro other hother
    exact absurd hother (ht other)
  · intro answer hmem
    rw [hcontroller]
    rcases List.mem_append.mp hmem with hmem | hmem
    · exact h.earlier answer hmem
    · obtain rfl := List.mem_singleton.mp hmem
      dsimp only
      omega
  · rw [List.map_append, List.nodup_append]
    refine ⟨h.once, by simp, ?_⟩
    intro p hp q hq
    obtain ⟨answer, hmem, rfl⟩ := List.mem_map.mp hp
    obtain rfl : q = prompt.id := by simpa using hq
    exact Nat.ne_of_lt (hearlier answer hmem)
  · intro answer hmem
    rcases List.mem_append.mp hmem with hmem | hmem
    · exact h.shown answer hmem
    · obtain rfl := List.mem_singleton.mp hmem
      exact ⟨prompt, hoffered, rfl, ha⟩
  · rw [h.account, hsnone, hanswer]
    simp
  · rw [hloop]
    exact h.flight

theorem enter_eq (h : s.isPrompt = true) (text : String) :
    (s.enter text).1.shell = (s.shell.execute (Command.parse text)).1 ∧ (s.enter text).1.loop = s.loop ∧
      (s.enter text).1.held = if (s.shell.execute (Command.parse text)).2.goesOn
        then (s.shell.execute (Command.parse text)).2.event else some .shutdown := by
  rw [enter, if_pos h]
  generalize s.shell.execute (Command.parse text) = executed
  dsimp only
  split <;> exact ⟨rfl, rfl, rfl⟩

theorem Answerable.enter (h : Answerable acts given put s) (text : String) :
    Answerable (acts ++ (s.enter text).2) (given ++ (s.takes? (.line text)).toList) put (s.enter text).1 := by
  by_cases hprompt : s.isPrompt = true
  · have hheld := held_of_isPrompt hprompt
    have hsnone : s.heldAnswer? = none := by rw [heldAnswer?, hheld]; rfl
    obtain ⟨hshell, hloop, hafter⟩ := enter_eq hprompt text
    by_cases hchoose : ∃ n, Command.parse text = .choose n
    · obtain ⟨n, hn⟩ := hchoose
      rw [hn] at hshell hafter
      simp only [takes?, if_pos hprompt, hn]
      rcases s.shell.host.choose_cases n with hnone | ⟨prompt, a, hasks, ha, hchosen⟩ | ⟨a, hnotice, hchosen⟩
      · simp only [Shell.execute, hnone] at hshell hafter ⊢
        rw [Option.toList_none, List.append_nil]
        refine h.same (same_of_host ?_ ?_ hloop) _
        · rw [hshell]
          exact fun _ => Iff.rfl
        · rw [hsnone, heldAnswer?, hafter]
          rfl
      · simp only [Shell.execute, hchosen] at hshell hafter ⊢
        have hgone : ∀ other, ¬(s.enter text).1.shell.host.asks other := by
          rw [hshell]
          exact nofun
        have hanswer : (s.enter text).1.heldAnswer? = some (prompt.id, a) := by
          rw [heldAnswer?, hafter]
          rfl
        generalize s.enter text = after at hloop hgone hanswer ⊢
        refine (h.answer hheld hasks ha hgone hanswer hloop).same ?_ _
        exact same_of_host (fun _ => Iff.rfl) rfl rfl
      · simp only [Shell.execute, hchosen] at hshell hafter ⊢
        rw [Option.toList_none, List.append_nil]
        refine h.same (same_of_host ?_ ?_ hloop) _
        · rw [hshell]
          intro prompt
          rw [Host.asks, Host.asks, hnotice]
          exact ⟨nofun, nofun⟩
        · rw [hsnone, heldAnswer?, hafter]
          rfl
    · have hquiet := execute_quiet s.shell fun n hn => hchoose ⟨n, hn⟩
      have hnone : s.takes? (.line text) = none := by
        simp only [takes?, if_pos hprompt]
        split
        · rename_i n hn
          exact absurd ⟨n, hn⟩ hchoose
        · rfl
      rw [hnone, Option.toList_none, List.append_nil]
      refine h.same (same_of_host ?_ ?_ hloop) _
      · intro prompt
        rw [Host.asks, Host.asks, hshell, hquiet.1]
      · rw [hsnone, heldAnswer?, hafter]
        split
        · exact hquiet.2
        · rfl
  · have hidle : s.enter text = (s, []) := by rw [Session.enter, if_neg hprompt]
    have hnone : s.takes? (.line text) = none := by rw [takes?, if_neg hprompt]
    simpa [hidle, hnone] using h

theorem Answerable.send (h : Answerable acts given put s) {event : Controller.Event}
    (hheld : s.held = some event) :
    Answerable acts given (put ++ event.answer?.toList)
      { s with held := none, loop := s.loop.send event } := by
  have hanswer : s.heldAnswer? = event.answer? := by rw [heldAnswer?, hheld]; rfl
  have hcontroller : (s.loop.send event).controller = s.loop.controller :=
    Controller.Loop.controller_lead s.loop (.send event)
  have hflight := inFlight_send h.isOpen event
  constructor
  · dsimp only [controller]
    rw [hcontroller]
    exact h.offering
  · simp [Loop.send, h.isOpen]
  · intro p hp
    dsimp only [controller] at hp ⊢
    rw [hcontroller] at hp
    rw [hflight]
    rcases h.standing p hp with hasks | ⟨a, ha | ha⟩
    · exact .inl hasks
    · refine .inr ⟨a, .inr (List.mem_append_right _ ?_)⟩
      rw [← hanswer, ha]
      exact List.mem_singleton.mpr rfl
    · exact .inr ⟨a, .inr (List.mem_append_left _ ha)⟩
  · intro prompt hprompt
    dsimp only [controller]
    rw [hcontroller]
    exact h.asked prompt hprompt
  · dsimp only [controller]
    rw [hcontroller]
    exact h.earlier
  · exact h.once
  · exact h.shown
  · rw [h.account, hanswer]
    exact (List.append_nil _).symm
  · obtain ⟨received, hreceived⟩ := h.flight
    exact ⟨received, by rw [hflight, hreceived, List.append_assoc]⟩

/-- The shell sends what it holds, or does nothing to the offers. -/
theorem proceedShell_cases (hopen : s.loop.isClosed = false) :
    s.Same s.proceedShell.1 ∨ ∃ event, s.held = some event ∧
      s.proceedShell = ({ s with held := none, loop := s.loop.send event }, []) := by
  unfold Session.proceedShell
  split
  · rename_i event hheld
    split
    · exact .inr ⟨event, hheld, rfl⟩
    · exact .inl (same_of_host (fun _ => Iff.rfl) rfl rfl)
  · have hsame := same_advance hopen s.shellReload
    generalize s.advance s.shellReload = after at hsame ⊢
    refine .inl (hsame.trans ?_)
    exact same_of_host (fun _ => Iff.rfl) rfl rfl

theorem same_proceedHangup (hopen : s.loop.isClosed = false) : s.Same s.proceedHangup.1 := by
  unfold Session.proceedHangup
  split
  · dsimp only
    split <;> exact same_of_host (fun _ => Iff.rfl) rfl rfl
  · have hsame := same_advance hopen s.hangupReload
    generalize s.advance s.hangupReload = after at hsame ⊢
    refine hsame.trans ?_
    exact same_of_host (fun _ => Iff.rfl) rfl rfl

theorem same_endInput (s : Session) : s.Same s.endInput := by
  unfold endInput
  split
  · rename_i hprompt
    refine same_of_host (fun _ => Iff.rfl) ?_ rfl
    rw [heldAnswer?, heldAnswer?, held_of_isPrompt hprompt]
    rfl
  · exact same_of_host (fun _ => Iff.rfl) rfl rfl

theorem showAct_spec (s : Session) (act : Controller.Act) :
    (s.showAct act).1.loop = s.loop ∧ (s.showAct act).1.held = s.held ∧
      (s.showAct act).1.shell.host.question =
        (act.offer?.map Question.recovery).or s.shell.host.question ∧
      ∀ prompt, act = .offered prompt → (s.showAct act).2 = showing prompt := by
  unfold showAct
  split
  · refine ⟨rfl, rfl, rfl, ?_⟩
    rintro prompt ⟨⟩
    rfl
  · exact ⟨rfl, rfl, rfl, nofun⟩
  · exact ⟨rfl, rfl, rfl, nofun⟩
  · rename_i hnot _ _
    refine ⟨rfl, rfl, ?_, fun prompt hact => absurd hact (hnot prompt)⟩
    cases act with
    | offered prompt => exact absurd rfl (hnot prompt)
    | _ => rfl

/-- What the controller does changes neither the channel nor what the shell holds. The question is about the
last offer that is made, if one is. -/
theorem showActs_spec (s : Session) (did : List Controller.Act) :
    (s.showActs did).1.loop = s.loop ∧ (s.showActs did).1.held = s.held ∧
      (s.showActs did).1.shell.host.question =
        ((did.filterMap Controller.Act.offer?).getLast?.map Question.recovery).or s.shell.host.question ∧
      ∀ prompt, .offered prompt ∈ did → showing prompt <:+: (s.showActs did).2 := by
  induction did generalizing s with
  | nil => exact ⟨rfl, rfl, rfl, nofun⟩
  | cons act did ih =>
      obtain ⟨hloop, hheld, hquestion, hshown⟩ := s.showAct_spec act
      obtain ⟨hloop', hheld', hquestion', hshown'⟩ := ih (s.showAct act).1
      refine ⟨hloop'.trans hloop, hheld'.trans hheld, ?_, ?_⟩
      · refine hquestion'.trans ?_
        rw [hquestion]
        cases hoffer : act.offer? with
        | none => rw [List.filterMap_cons_none hoffer, Option.map_none, Option.none_or]
        | some prompt =>
            rw [List.filterMap_cons_some hoffer, List.getLast?_cons]
            cases (did.filterMap Controller.Act.offer?).getLast? <;> rfl
      · intro prompt hprompt
        rcases List.mem_cons.mp hprompt with heq | hlater
        · rw [← hshown prompt heq.symm]
          exact (List.prefix_append _ _).isInfix
        · exact (hshown' prompt hlater).trans (List.suffix_append _ _).isInfix

theorem Answerable.moved (h : Answerable acts given put s) (e : Editor) {i : Controller.Input}
    {new : List Act} (hled : s.loop.Led (some i) t.loop.queue) (hopen : t.loop.isClosed = false)
    (hcontroller : t.controller = (s.controller.step e i).1) (hheld : t.held = s.held)
    (hquestion : t.shell.host.question =
      (((s.controller.step e i).2.filterMap Controller.Act.offer?).getLast?.map Question.recovery).or
        s.shell.host.question)
    (hnew : ∀ prompt, Controller.Act.offered prompt ∈ (s.controller.step e i).2 → showing prompt <:+: new) :
    Answerable (acts ++ new) given put t := by
  obtain ⟨history, hoffering⟩ := h.offering
  have hanswer : t.heldAnswer? = s.heldAnswer? := by rw [heldAnswer?, hheld]; rfl
  have hafter : ∃ h, Controller.Offering h t.controller := by
    rw [hcontroller]
    exact ⟨_, hoffering.moves (Controller.moves_step e s.controller i)⟩
  have hflight := hled.inFlight
  have hreceived : ∃ received, put = received ++ t.loop.inFlight := by
    obtain ⟨received, hreceived⟩ := h.flight
    rcases hflight with hsame | ⟨p, a, -, htaken⟩
    · exact ⟨received, by rw [hreceived, hsame]; rfl⟩
    · exact ⟨received ++ [(p, a)], by rw [hreceived, htaken, List.append_assoc]; rfl⟩
  have haccount : given = put ++ t.heldAnswer?.toList := by
    rw [hanswer]
    exact h.account
  rcases Controller.offers_step e s.controller i with ⟨hnone, hnext, hout⟩ | ⟨hone, hnext, hout⟩
  · rw [hnone] at hquestion
    rw [← hcontroller] at hnext hout
    refine ⟨hafter, hopen, ?_, ?_, ?_, h.once, h.shown_append new, haccount, hreceived⟩
    · intro p hp
      have hstill : s.controller.outstanding = some p := by
        rcases hout with hgone | hsame
        · cases hgone.symm.trans hp
        · exact hsame.symm.trans hp
      rcases h.standing p hstill with hasks | ⟨a, ha | ha⟩
      · exact .inl (hquestion.trans hasks)
      · exact .inr ⟨a, .inl (hanswer.trans ha)⟩
      · rcases hflight with hsame | ⟨q, b, hinput, htaken⟩
        · exact .inr ⟨a, .inr (by rwa [hsame] at ha)⟩
        · rw [htaken] at ha
          rcases List.mem_cons.mp ha with heq | ha
          · cases hinput
            cases heq
            have hgone := Controller.outstanding_of_chosen e hoffering.idle hstill a
            rw [← hcontroller, hp] at hgone
            cases hgone
          · exact .inr ⟨a, .inr ha⟩
    · intro prompt hprompt
      obtain ⟨hlast, hoffered, hearlier⟩ := h.asked prompt (hquestion.symm.trans hprompt)
      exact ⟨hlast.trans hnext.symm, infix_append hoffered new, hearlier⟩
    · rw [hnext]
      exact h.earlier
  · have hmem : Controller.Act.offered (.ofId s.controller.nextPrompt) ∈ (s.controller.step e i).2 := by
      obtain ⟨act, hact, hoffer⟩ := List.mem_filterMap.mp (hone ▸ List.mem_cons_self)
      cases act <;> cases hoffer
      exact hact
    rw [hone] at hquestion
    rw [← hcontroller] at hnext hout
    refine ⟨hafter, hopen, ?_, ?_, ?_, h.once, h.shown_append new, haccount, hreceived⟩
    · intro p hp
      obtain rfl : s.controller.nextPrompt = p := Option.some.inj (hout.symm.trans hp)
      exact .inl hquestion
    · intro prompt hprompt
      obtain rfl : Recovery.Prompt.ofId s.controller.nextPrompt = prompt :=
        Question.recovery.inj (Option.some.inj (hquestion.symm.trans hprompt))
      exact ⟨hnext.symm, (hnew _ hmem).trans (List.suffix_append acts new).isInfix, h.earlier⟩
    · intro answer hanswer
      have := h.earlier answer hanswer
      omega

theorem drive_cases (s : Session) (i : Loop.Input) :
    ((s.loop.lead i).2 = none ∧ s.drive i = ({ s with loop := (s.loop.lead i).1 }, [])) ∨
      ∃ j, (s.loop.lead i).2 = some j ∧
        s.drive i = ({ s with loop := { (s.loop.lead i).1 with
          controller := (s.controller.step (s.shell.editor s.process) j).1 } } : Session).showActs
            (s.controller.step (s.shell.editor s.process) j).2 := by
  have hsame := Loop.controller_lead s.loop i
  unfold Session.drive Loop.step controller
  generalize s.loop.lead i = led at hsame ⊢
  obtain ⟨l, j⟩ := led
  cases j with
  | none => exact .inl ⟨rfl, rfl⟩
  | some j =>
      rw [← hsame]
      exact .inr ⟨j, rfl, rfl⟩

theorem Answerable.drive (h : Answerable acts given put s) {i : Loop.Input} (hi : i.isInner = true) :
    Answerable (acts ++ (s.drive i).2) given put (s.drive i).1 := by
  obtain ⟨hled, hopen⟩ := Loop.led_lead h.isOpen hi
  rcases s.drive_cases i with ⟨hnone, hdrive⟩ | ⟨j, hj, hdrive⟩
  · rw [hdrive]
    rw [hnone] at hled
    refine h.same ?_ []
    refine ⟨fun _ => Iff.rfl, rfl, Loop.controller_lead s.loop i, hopen.trans h.isOpen.symm, ?_⟩
    rcases hled.inFlight with hflight | ⟨_, _, hsome, _⟩
    · exact hflight.symm
    · cases hsome
  · rw [hj] at hled
    obtain ⟨hloop, hheld, hquestion, hnew⟩ := showActs_spec
      { s with loop := { (s.loop.lead i).1 with
        controller := (s.controller.step (s.shell.editor s.process) j).1 } }
      (s.controller.step (s.shell.editor s.process) j).2
    rw [← hdrive] at hloop hheld hquestion hnew
    refine h.moved (s.shell.editor s.process) (i := j) ?_ ?_ ?_ hheld hquestion hnew
    · rwa [hloop]
    · rwa [hloop]
    · exact congrArg Loop.controller hloop

theorem inFlight_drive (hopen : s.loop.isClosed = false) {i : Loop.Input} (hi : i.isInner = true) :
    (s.drive i).1.loop.inFlight <:+ s.loop.inFlight := by
  obtain ⟨hled, -⟩ := Loop.led_lead hopen hi
  have hqueue : (s.drive i).1.loop.queue = (s.loop.lead i).1.queue := by
    rcases s.drive_cases i with ⟨-, hdrive⟩ | ⟨j, -, hdrive⟩
    · rw [hdrive]
    · rw [hdrive, (showActs_spec _ _).1]
  rw [Loop.inFlight, hqueue]
  rcases hled.inFlight with hsame | ⟨p, a, -, htaken⟩
  · exact hsame ▸ List.suffix_refl _
  · rw [htaken]
    exact List.suffix_cons _ _

theorem sends_of_suffix {i : Input} (h : (s.step i).1.loop.inFlight <:+ s.loop.inFlight) :
    s.sends i = [] :=
  List.drop_eq_nil_of_le h.length_le

theorem Answerable.rest (h : Answerable acts given put s) {i : Input} (hsame : s.Same (s.step i).1)
    (hnone : s.takes? i = none) :
    Answerable (acts ++ (s.step i).2) (given ++ (s.takes? i).toList) (put ++ s.sends i) (s.step i).1 := by
  have hsends : s.sends i = [] := sends_of_suffix (hsame.inFlight ▸ List.suffix_refl _)
  rw [hnone, hsends, Option.toList_none, List.append_nil, List.append_nil]
  exact h.same hsame _

theorem Answerable.turn (h : Answerable acts given put s) {i : Input} {j : Loop.Input}
    (hinner : j.isInner = true) (hstep : s.step i = s.drive j) (hnone : s.takes? i = none) :
    Answerable (acts ++ (s.step i).2) (given ++ (s.takes? i).toList) (put ++ s.sends i) (s.step i).1 := by
  have hsends : s.sends i = [] := sends_of_suffix (hstep ▸ inFlight_drive h.isOpen hinner)
  rw [hnone, hsends, hstep, Option.toList_none, List.append_nil, List.append_nil]
  exact h.drive hinner

theorem Answerable.step (h : Answerable acts given put s) (i : Input) :
    Answerable (acts ++ (s.step i).2) (given ++ (s.takes? i).toList) (put ++ s.sends i) (s.step i).1 := by
  cases i with
  | line text =>
      have hloop : (s.enter text).1.loop = s.loop := by
        by_cases hprompt : s.isPrompt = true
        · exact (enter_eq hprompt text).2.1
        · rw [Session.enter, if_neg hprompt]
      have hsends : s.sends (.line text) = [] := sends_of_suffix (hloop ▸ List.suffix_refl _)
      rw [hsends, List.append_nil]
      exact h.enter text
  | endInput => exact h.rest s.same_endInput rfl
  | proceedHangup => exact h.rest (same_proceedHangup h.isOpen) rfl
  | hangUp => exact h.rest (same_of_host (fun _ => Iff.rfl) rfl rfl) rfl
  | relay panel => exact h.rest (same_of_host (fun _ => Iff.rfl) rfl rfl) rfl
  | edit path content => exact h.rest (same_of_host (fun _ => Iff.rfl) rfl rfl) rfl
  | take => exact h.turn (j := .take) rfl rfl rfl
  | noticeLoss => exact h.turn (j := .noticeLoss) rfl rfl rfl
  | control i => exact h.turn (j := .control i) rfl rfl rfl
  | proceedShell =>
      rcases proceedShell_cases h.isOpen with hsame | ⟨event, hheld, hproceed⟩
      · exact h.rest hsame rfl
      · have hsends : s.sends .proceedShell = event.answer?.toList := by
          rw [sends, Session.step, hproceed, inFlight_send h.isOpen, List.drop_left]
        rw [hsends, Session.step, hproceed]
        simpa [takes?] using h.send hheld

theorem Answerable.run (h : Answerable acts given put s) (inputs : List Input) :
    Answerable (acts ++ (s.run inputs).2) (given ++ s.taken inputs) (put ++ s.sent inputs)
      (s.run inputs).1 := by
  induction inputs generalizing acts given put s with
  | nil => simpa [Session.run, taken, sent] using h
  | cons i inputs ih =>
      have hrest := ih (h.step i)
      rw [List.append_assoc, List.append_assoc, List.append_assoc] at hrest
      exact hrest

theorem answerable_begin {shell : Shell} (hquestion : ∀ prompt, ¬shell.host.asks prompt) (process : Nat) :
    Answerable (begin shell process).2 [] [] (begin shell process).1 := by
  have hinit : Answerable [] [] [] { shell, process : Session } := by
    refine ⟨⟨[], Controller.offering_init⟩, rfl, nofun, ?_, nofun, List.nodup_nil, nofun, rfl, [], rfl⟩
    exact fun prompt hprompt => absurd hprompt (hquestion prompt)
  obtain ⟨hloop, hheld, hasked, hshown⟩ := showActs_spec
    { shell, loop := (Loop.begin (shell.editor process)).1, process } (Loop.begin (shell.editor process)).2
  refine hinit.moved (shell.editor process) (i := .perform .restart) ?_ ?_ ?_ hheld hasked hshown
  · exact congrArg Loop.queue hloop ▸ .aside _
  · exact congrArg Loop.isClosed hloop
  · exact congrArg Loop.controller hloop

/-- Where the terminal asks about an offer and takes a line, each action can be chosen. -/
theorem takes_of_asks {p : Nat} (hasks : s.shell.host.asks (.ofId p)) (hprompt : s.isPrompt = true)
    {a : Recovery.Action} (ha : a ∈ Recovery.actions) :
    ∃ text, s.takes? (.line text) = some (p, a) ∧ (s.step (.line text)).1.held = some (.chosen p a) := by
  have hline {n : Nat} {text : String} (hn : Command.parse text = .choose n)
      (hchosen : Host.option? (.recovery (.ofId p)) n = some (.recovery p a)) :
      s.takes? (.line text) = some (p, a) ∧ (s.step (.line text)).1.held = some (.chosen p a) := by
    have hchoose : s.shell.host.choose n =
        (some (.recovery p a), { s.shell.host with question := none }) := by
      rw [Host.choose, hasks]
      simp [hchosen]
    constructor
    · simp only [takes?, if_pos hprompt, hn, hchoose]
    · change (s.enter text).1.held = _
      rw [(enter_eq hprompt text).2.2, hn]
      simp [Shell.execute, hchoose]
  cases a with
  | openSettings => exact ⟨"1", hline (n := 1) (by decide +kernel) rfl⟩
  | reconnect => exact ⟨"2", hline (n := 2) (by decide +kernel) rfl⟩

end Session

/-- Before the controller starts no offer is asked about, but a notice may be. -/
theorem Surroundings.not_asks_of_start {faults : Storage.Tree.Faults} {surroundings : Surroundings}
    {started : Started} (h : surroundings.start faults = .ok started) (prompt : Recovery.Prompt) :
    ¬started.shell.host.asks prompt := by
  unfold start at h
  dsimp only at h
  split at h
  · cases h
  · cases h
    cases (surroundings.dueNotice faults).1 <;> exact nofun

namespace Session

/-- No offer is lost, whatever is typed, reloaded, lost and edited, in any order, and with a notice before. An
offer that can be accepted is asked about, and each of its actions can then be chosen, or an answer to it has
been given, which the shell holds or the channel has. The answers that were given are those that were put into
the channel and the one that the shell holds. There is one for each offer at most, and it is about an offer
that was shown and one of the actions shown with it. -/
theorem offers_stay_answerable {faults : Storage.Tree.Faults} {surroundings : Surroundings} {started : Started}
    (hstart : surroundings.start faults = .ok started) (process : Nat) (inputs : List Input) :
    let first := begin started.shell process
    let last := first.1.run inputs
    (∀ p, last.1.controller.outstanding = some p →
      (last.1.shell.host.asks (.ofId p) ∧ (last.1.isPrompt = true → ∀ a ∈ Recovery.actions,
        ∃ text, last.1.takes? (.line text) = some (p, a) ∧
          (last.1.step (.line text)).1.held = some (.chosen p a))) ∨
      ∃ a, (p, a) ∈ first.1.taken inputs ∧
        (last.1.held = some (.chosen p a) ∨ .chosen p a ∈ last.1.loop.queue)) ∧
    first.1.taken inputs = first.1.sent inputs ++ last.1.heldAnswer?.toList ∧
    ((first.1.taken inputs).map Prod.fst).Nodup ∧
    ∀ answer ∈ first.1.taken inputs, ∃ prompt, showing prompt <:+: first.2 ++ last.2 ∧
      prompt.id = answer.1 ∧ answer.2 ∈ prompt.actions := by
  intro first last
  have hbegin := answerable_begin (Surroundings.not_asks_of_start hstart) process
  have h : Answerable (first.2 ++ last.2) (first.1.taken inputs) (first.1.sent inputs) last.1 :=
    hbegin.run inputs
  refine ⟨?_, h.account, h.once, h.shown⟩
  intro p hp
  rcases h.standing p hp with hasks | ⟨a, ha | ha⟩
  · exact .inl ⟨hasks, fun hprompt a ha => takes_of_asks hasks hprompt ha⟩
  · refine .inr ⟨a, ?_, .inl ?_⟩
    · rw [h.account, ha]
      exact List.mem_append_right _ List.mem_cons_self
    · obtain ⟨event, hheld, hanswer⟩ := Option.bind_eq_some_iff.mp ha
      rw [hheld, Controller.Event.eq_of_answer? hanswer]
  · refine .inr ⟨a, ?_, .inr ?_⟩
    · obtain ⟨received, hreceived⟩ := h.flight
      rw [h.account, hreceived]
      exact List.mem_append_left _ (List.mem_append_right _ ha)
    · obtain ⟨event, hevent, hanswer⟩ := List.mem_filterMap.mp ha
      rwa [← Controller.Event.eq_of_answer? hanswer]

/-- A home where the settings ask for a socket and no version is recorded. -/
def newHome : Surroundings where
  environment := ⟨[(Text.Utf8.bytes "HOME", Text.Utf8.bytes "/")]⟩
  workingDirectory := Path.ofText "/"
  programDirectory := Path.ofText "/"
  argument := none
  tree := ⟨[[], [([Text.Utf8.bytes Home.directoryName], .directory false)],
    [([Text.Utf8.bytes Home.directoryName, Text.Utf8.bytes Home.settingsName],
      .file (Text.Utf8.bytes "lsp.transport='socket'"))]]⟩

/-- No option has the number that is typed first; then nobody listens at the port. -/
def failing : List Input :=
  [.line "4", .control (.reached .failed), .line "2"]

theorem offers_stay_answerable_after_notice :
    ∃ started, newHome.start Storage.Tree.noFaults = .ok started ∧
      started.shell.host.question = some .notice ∧
      ((begin started.shell 7).1.run failing).1.controller.outstanding = some 1 ∧
      (begin started.shell 7).1.taken failing = [(1, .reconnect)] ∧
      (∃ a, (1, a) ∈ (begin started.shell 7).1.taken failing ∧
        (((begin started.shell 7).1.run failing).1.held = some (.chosen 1 a) ∨
          .chosen 1 a ∈ ((begin started.shell 7).1.run failing).1.loop.queue)) ∧
      ∃ prompt, showing prompt <:+: (begin started.shell 7).2 ++ ((begin started.shell 7).1.run failing).2 ∧
        prompt.id = 1 ∧ .reconnect ∈ prompt.actions := by
  have hcomputed : ((newHome.start Storage.Tree.noFaults).toOption.map fun started =>
      (started.shell.host.question, ((begin started.shell 7).1.run failing).1.controller.outstanding,
        ((begin started.shell 7).1.run failing).1.shell.host.question,
        (begin started.shell 7).1.taken failing)) =
      some (some .notice, some 1, none, [(1, .reconnect)]) := by
    decide +kernel
  cases hstart : newHome.start Storage.Tree.noFaults with
  | error lines =>
      rw [hstart] at hcomputed
      cases hcomputed
  | ok started =>
      rw [hstart] at hcomputed
      have hresults := Option.some.inj hcomputed
      simp only [Prod.mk.injEq] at hresults
      obtain ⟨hnotice, houtstanding, hquestion, htaken⟩ := hresults
      obtain ⟨hanswerable, -, -, hshown⟩ := offers_stay_answerable hstart 7 failing
      refine ⟨started, rfl, hnotice, houtstanding, htaken, ?_, ?_⟩
      · rcases hanswerable 1 houtstanding with ⟨hasks, -⟩ | hanswered
        · cases hquestion.symm.trans hasks
        · exact hanswered
      · exact hshown (1, .reconnect) (by rw [htaken]; exact List.mem_cons_self)

end Session

end ServerLink.Terminal
