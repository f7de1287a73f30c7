import ServerLink.Proofs.Desktop.Relay
import ServerLink.Proofs.Terminal.Offer
import ServerLink.Proofs.Terminal.Panel

/-!
A session at the terminal as a run of a desktop. The terminal opens a panel as soon as a page is to be shown,
and messages are posted in the newest panel only; what is done with the panels and their messages is the same.
-/

namespace ServerLink

/-- Whether an act is one of the controller, or a request for a panel. -/
def Desktop.Act.isSeen : Desktop.Act → Bool
  | .controller _ => true
  | .requested .. => true
  | _ => false

namespace Terminal

open ServerLink.Storage

namespace Host

def IsKept (h : Host) : Prop :=
  ∃ log, Keeps log h

structure SamePanels (h t : Host) : Prop where
  next : t.nextPanel = h.nextPanel
  opened : t.openPanels = h.openPanels
  board : t.board = h.board

theorem SamePanels.isKept {h t : Host} (hsame : h.SamePanels t) (hkept : h.IsKept) : t.IsKept := by
  obtain ⟨log, hk⟩ := hkept
  exact ⟨log, {
    next := hsame.next ▸ hk.next
    numbered := hk.numbered
    board := hsame.board ▸ hk.board
    unopened := hk.unopened
    inOrder := hk.inOrder
    distinct := hsame.opened ▸ hk.distinct
    opened := hsame.opened ▸ hk.opened
    live := hsame.opened ▸ hk.live }⟩

def desktop (h : Host) (controller : Controller) (requests : List Panel.Request) : Desktop where
  controller
  nextPanel := h.nextPanel
  board := h.board
  underWay := requests

theorem SamePanels.desktop {h t : Host} (hsame : h.SamePanels t) (controller : Controller)
    (requests : List Panel.Request) : t.desktop controller requests = h.desktop controller requests := by
  simp only [Host.desktop, hsame.next, hsame.board]

theorem desktop_post {h : Host} (hkept : h.IsKept) (m : Panel.Message) (controller : Controller)
    (requests : List Panel.Request) : ∃ inputs did, (h.desktop controller requests).run inputs =
      ((h.post m).2.desktop controller requests, did) ∧ did.filter (·.isSeen) = [] := by
  obtain ⟨log, hk⟩ := hkept
  have hreply := (hk.post m).1
  cases hlast : h.prune.openPanels.getLast? with
  | none =>
      refine ⟨[], [], ?_, rfl⟩
      simp only [Host.post, hlast]
      rfl
  | some panel =>
      have hsame : h.prune.board = h.board := rfl
      cases hboard : h.board.post panel m with
      | error refusal =>
          refine ⟨[], [], ?_, rfl⟩
          cases refusal <;> (simp only [Host.post, hlast, hsame, hboard]; rfl)
      | ok board =>
          have hpost : h.post m = (.ok panel, { h.prune with board }) := by
            simp only [Host.post, hlast, hsame, hboard]
          rw [hpost] at hreply ⊢
          obtain ⟨hcreated, hclosed, -⟩ := mem_liveIn.mp (mem_liveIn_of_replyIn hreply.symm)
          have hopen : (h.desktop controller requests).isOpen panel = true := by
            simp [Desktop.isOpen, Host.desktop, hk.queue? hcreated, hclosed]
          refine ⟨[.post panel m], [.posted panel m], ?_, rfl⟩
          simp only [Desktop.run, Desktop.step, Desktop.post, hopen, if_true]
          simp only [Host.desktop, hboard]
          rfl

theorem desktop_closeLatest (h : Host) (controller : Controller) (requests : List Panel.Request) :
    ∃ inputs did, (h.desktop controller requests).run inputs =
      (h.closeLatest.2.desktop controller requests, did) ∧ did.filter (·.isSeen) = [] := by
  unfold closeLatest
  split
  · exact ⟨[], [], rfl, rfl⟩
  · rename_i panel _
    exact ⟨[.close panel], [], rfl, rfl⟩

end Host

theorem Shell.execute_host (s : Shell) (c : Command) :
    s.host.SamePanels (s.execute c).1.host ∨ (∃ m, (s.execute c).1.host = (s.host.post m).2) ∨
      (s.execute c).1.host = s.host.closeLatest.2 := by
  cases c with
  | choose n =>
      refine .inl ?_
      have hsame : s.host.SamePanels (s.host.choose n).2 := by
        unfold Host.choose
        split <;> exact ⟨rfl, rfl, rfl⟩
      simp only [Shell.execute]
      split <;> exact hsame
  | document action path =>
      refine .inl ?_
      simp only [Shell.execute]
      split <;> exact ⟨rfl, rfl, rfl⟩
  | post m =>
      refine .inr (.inl ⟨m, ?_⟩)
      simp only [Shell.execute]
      split <;> rfl
  | closePanel =>
      refine .inr (.inr ?_)
      simp only [Shell.execute]
      split <;> rfl
  | _ => exact .inl ⟨rfl, rfl, rfl⟩

theorem Surroundings.panels_of_start {faults : Storage.Tree.Faults} {surroundings : Surroundings}
    {started : Started} (h : surroundings.start faults = .ok started) :
    started.shell.host.nextPanel = 1 ∧ started.shell.host.openPanels = [] ∧
      started.shell.host.board = {} := by
  unfold start at h
  dsimp only at h
  split at h
  · cases h
  · cases h
    cases (surroundings.dueNotice faults).1 <;> exact ⟨rfl, rfl, rfl⟩

namespace Session

open Controller (Loop)

/-- An act of a session as one of its desktop. -/
def Act.desktop? : Act → Option Desktop.Act
  | .controller act => some (.controller act)
  | .requested panel request => some (.requested panel request)
  | _ => none

def desktop (s : Session) (requests : List Panel.Request) : Desktop :=
  s.shell.host.desktop s.controller requests

/-- What a session does is what its desktop does in some run. -/
def Plays (s : Session) (acts : List Act) (t : Session) : Prop :=
  ∀ requests, ∃ inputs left did, (s.desktop requests).run inputs = (t.desktop left, did) ∧
    did.filter (·.isSeen) = acts.filterMap Act.desktop?

variable {s t : Session} {acts : List Act}

theorem plays_of_same (hcontroller : t.controller = s.controller)
    (hpanels : s.shell.host.SamePanels t.shell.host) (hacts : acts.filterMap Act.desktop? = []) :
    s.Plays acts t := by
  intro requests
  refine ⟨[], requests, [], ?_, hacts.symm⟩
  rw [desktop, desktop, hcontroller, hpanels.desktop]
  rfl

theorem Plays.trans {u : Session} {more : List Act} (first : s.Plays acts t) (second : t.Plays more u) :
    s.Plays (acts ++ more) u := by
  intro requests
  obtain ⟨inputs, left, did, hrun, hdid⟩ := first requests
  obtain ⟨inputs', left', did', hrun', hdid'⟩ := second left
  refine ⟨inputs ++ inputs', left', did ++ did', ?_, ?_⟩
  · rw [Desktop.run_append, hrun, hrun']
  · rw [List.filter_append, List.filterMap_append, hdid, hdid']

theorem desktop?_printed (lines : List String) :
    (lines.map Act.printed).filterMap Act.desktop? = [] := by
  simp [List.filterMap_map, Function.comp_def, Act.desktop?]

/-- A page that is to be shown opens the next panel, and nothing else opens one. -/
theorem showAct_panels (s : Session) (act : Controller.Act) :
    (s.showAct act).1.loop = s.loop ∧ (s.showAct act).2.filterMap Act.desktop? = [.controller act] ∧
      (act.page? = none ∧ s.shell.host.SamePanels (s.showAct act).1.shell.host ∨
        ∃ page, act.page? = some page ∧ (s.showAct act).1.shell.host = s.shell.host.addPanel) := by
  unfold showAct
  split
  · exact ⟨rfl, by simp [Act.desktop?, List.filterMap_map, Function.comp_def], .inl ⟨rfl, ⟨rfl, rfl, rfl⟩⟩⟩
  · exact ⟨rfl, rfl, .inl ⟨rfl, ⟨rfl, rfl, rfl⟩⟩⟩
  · exact ⟨rfl, rfl, .inr ⟨_, rfl, rfl⟩⟩
  · rename_i hpage
    refine ⟨rfl, rfl, .inl ⟨?_, ⟨rfl, rfl, rfl⟩⟩⟩
    unfold Controller.Act.page?
    split
    · exact absurd rfl (hpage _ _)
    · rfl

theorem opens_showActs (s : Session) (did : List Controller.Act) (requests : List Panel.Request) :
    (s.showActs did).1.loop = s.loop ∧
    (s.showActs did).2.filterMap Act.desktop? = did.map Desktop.Act.controller ∧
    (s.shell.host.IsKept → (s.showActs did).1.shell.host.IsKept) ∧
    ∃ inputs opened, Desktop.run
        { s.desktop requests with pages := did.filterMap Controller.Act.page? } inputs =
      ((s.showActs did).1.desktop requests, opened) ∧ opened.filter (·.isSeen) = [] := by
  induction did generalizing s with
  | nil => exact ⟨rfl, rfl, id, [], [], rfl, rfl⟩
  | cons act did ih =>
      obtain ⟨hloop, hseen, hpage⟩ := s.showAct_panels act
      obtain ⟨hloop', hseen', hkept, inputs, opened, hrun, hopened⟩ := ih (s.showAct act).1
      have hcontroller : (s.showAct act).1.controller = s.controller := congrArg Loop.controller hloop
      refine ⟨hloop'.trans hloop, ?_, ?_, ?_⟩
      · rw [showActs, List.filterMap_append, hseen, hseen']
        rfl
      · refine fun hs => hkept ?_
        rcases hpage with ⟨-, hsame⟩ | ⟨page, -, hhost⟩
        · exact hsame.isKept hs
        · obtain ⟨log, hk⟩ := hs
          rw [hhost]
          exact ⟨_, hk.created⟩
      · rcases hpage with ⟨hnone, hsame⟩ | ⟨page, hsome, hhost⟩
        · refine ⟨inputs, opened, ?_, hopened⟩
          rw [List.filterMap_cons_none hnone]
          rw [desktop, hcontroller, hsame.desktop] at hrun
          exact hrun
        · refine ⟨.opens 0 Host.capacity :: inputs, .opened s.shell.host.nextPanel page :: opened, ?_, hopened⟩
          rw [List.filterMap_cons_some hsome]
          rw [desktop, hcontroller, hhost] at hrun
          have hstep : Desktop.step { s.desktop requests with
                pages := page :: did.filterMap Controller.Act.page? } (.opens 0 Host.capacity) =
              ({ s.shell.host.addPanel.desktop s.controller requests with
                pages := did.filterMap Controller.Act.page? }, [.opened s.shell.host.nextPanel page]) := rfl
          rw [Desktop.run, hstep]
          simp only [hrun]
          rfl

/-- What a session does from one state to another, with the panels as they are to be. -/
structure Goes (s : Session) (acts : List Act) (t : Session) : Prop where
  plays : s.Plays acts t
  kept : t.shell.host.IsKept

theorem goes_of_same (hs : s.shell.host.IsKept) (hcontroller : t.controller = s.controller)
    (hpanels : s.shell.host.SamePanels t.shell.host) (hacts : acts.filterMap Act.desktop? = []) :
    s.Goes acts t :=
  ⟨plays_of_same hcontroller hpanels hacts, hpanels.isKept hs⟩

theorem goes_moved (hs : s.shell.host.IsKept) (loop : Loop) (e : Editor) (i : Controller.Input)
    (hmoved : loop.controller = (s.controller.step e i).1) :
    s.Goes (showActs { s with loop } (s.controller.step e i).2).2
      (showActs { s with loop } (s.controller.step e i).2).1 := by
  refine ⟨?_, ?_⟩
  · intro requests
    obtain ⟨-, hseen, -, inputs, opened, hrun, hopened⟩ :=
      opens_showActs { s with loop } (s.controller.step e i).2 requests
    refine ⟨.control e i :: inputs, requests, (s.controller.step e i).2.map .controller ++ opened, ?_, ?_⟩
    · have hstep : (s.desktop requests).step (.control e i) =
          ({ desktop { s with loop } requests with
            pages := (s.controller.step e i).2.filterMap Controller.Act.page? },
            (s.controller.step e i).2.map .controller) := by
        simp only [Desktop.step, Desktop.control, desktop, Host.desktop, controller, hmoved]
        rfl
      rw [Desktop.run, hstep]
      simp only [hrun]
    · rw [List.filter_append, hopened, hseen, List.append_nil]
      exact List.filter_eq_self.mpr (by simp [Desktop.Act.isSeen])
  · exact (opens_showActs { s with loop } (s.controller.step e i).2 []).2.2.1 hs

theorem goes_drive (hs : s.shell.host.IsKept) (i : Loop.Input) : s.Goes (s.drive i).2 (s.drive i).1 := by
  rcases s.drive_cases i with ⟨-, hdrive⟩ | ⟨j, -, hdrive⟩
  · rw [hdrive]
    exact goes_of_same hs (Loop.controller_lead s.loop i) ⟨rfl, rfl, rfl⟩ rfl
  · rw [hdrive]
    exact goes_moved hs _ _ j rfl

theorem goes_execute (hs : s.shell.host.IsKept) {c : Command}
    (hhost : t.shell.host = (s.shell.execute c).1.host) (hcontroller : t.controller = s.controller)
    (hacts : acts.filterMap Act.desktop? = []) : s.Goes acts t := by
  have hdesktop (requests : List Panel.Request) :
      t.desktop requests = (s.shell.execute c).1.host.desktop s.controller requests := by
    rw [desktop, hcontroller, hhost]
  rcases s.shell.execute_host c with hsame | ⟨m, hpost⟩ | hclose
  · exact goes_of_same hs hcontroller (hhost ▸ hsame) hacts
  · refine ⟨fun requests => ?_, ?_⟩
    · obtain ⟨inputs, did, hrun, hdid⟩ := Host.desktop_post hs m s.controller requests
      rw [← hpost, ← hdesktop] at hrun
      exact ⟨inputs, requests, did, hrun, hdid.trans hacts.symm⟩
    · obtain ⟨log, hk⟩ := hs
      rw [hhost, hpost]
      exact ⟨_, (hk.post m).2⟩
  · refine ⟨fun requests => ?_, ?_⟩
    · obtain ⟨inputs, did, hrun, hdid⟩ := s.shell.host.desktop_closeLatest s.controller requests
      rw [← hclose, ← hdesktop] at hrun
      exact ⟨inputs, requests, did, hrun, hdid.trans hacts.symm⟩
    · obtain ⟨log, hk⟩ := hs
      rw [hhost, hclose]
      exact ⟨_, hk.closeLatest.2⟩

theorem goes_enter (hs : s.shell.host.IsKept) (text : String) : s.Goes (s.enter text).2 (s.enter text).1 := by
  by_cases hprompt : s.isPrompt = true
  · obtain ⟨hshell, hloop, -⟩ := enter_eq hprompt text
    refine goes_execute hs (congrArg Shell.host hshell) (congrArg Loop.controller hloop) ?_
    rw [enter, if_pos hprompt]
    generalize s.shell.execute (Command.parse text) = executed
    exact desktop?_printed _
  · have hidle : s.enter text = (s, []) := by rw [enter, if_neg hprompt]
    rw [hidle]
    exact goes_of_same hs rfl ⟨rfl, rfl, rfl⟩ rfl

theorem goes_relay (hs : s.shell.host.IsKept) (panel : Nat) : s.Goes (s.relay panel).2 (s.relay panel).1 := by
  refine ⟨fun requests => ?_, ?_⟩
  · refine ⟨[.relay panel], requests ++ (s.shell.host.board.relay panel).1.toList,
      (s.shell.host.board.relay panel).1.toList.map (.requested panel), ?_, ?_⟩
    · simp [Desktop.run, Desktop.step, Desktop.relay, desktop, Host.desktop, relay, controller]
    · cases hrequest : (s.shell.host.board.relay panel).1 <;>
        simp [relay, hrequest, Desktop.Act.isSeen, Act.desktop?]
  · obtain ⟨log, hk⟩ := hs
    have hboard : (s.relay panel).1.shell.host = (s.shell.host.receive panel).2 := by
      simp only [relay, Panel.Board.relay, Host.receive]
      rcases s.shell.host.board.receive panel with ⟨_ | receipt, board⟩
      · rfl
      · cases receipt <;> rfl
    rw [hboard]
    exact ⟨_, (hk.receive panel).2⟩

theorem goes_advance (hs : s.shell.host.IsKept) (reload : Reload) :
    s.Goes (s.advance reload).2.2 (s.advance reload).1 := by
  unfold advance
  split
  · exact goes_of_same hs rfl ⟨rfl, rfl, rfl⟩ rfl
  · refine goes_of_same hs rfl ⟨rfl, rfl, rfl⟩ ?_
    simp [List.filterMap_map, Function.comp_def, Act.desktop?]
  · exact goes_of_same hs rfl ⟨rfl, rfl, rfl⟩ rfl
  · split
    · exact goes_of_same hs (Loop.controller_lead s.loop (.send .settingsChanged)) ⟨rfl, rfl, rfl⟩ rfl
    · exact goes_of_same hs rfl ⟨rfl, rfl, rfl⟩ rfl

theorem goes_step (hs : s.shell.host.IsKept) (i : Input) : s.Goes (s.step i).2 (s.step i).1 := by
  cases i with
  | line text => exact goes_enter hs text
  | endInput =>
      simp only [step, endInput]
      split <;> exact goes_of_same hs rfl ⟨rfl, rfl, rfl⟩ rfl
  | hangUp => exact goes_of_same hs rfl ⟨rfl, rfl, rfl⟩ rfl
  | proceedShell =>
      simp only [step, proceedShell]
      split
      · rename_i event _
        split
        · exact goes_of_same hs (Loop.controller_lead s.loop (.send event)) ⟨rfl, rfl, rfl⟩ rfl
        · exact goes_of_same hs rfl ⟨rfl, rfl, rfl⟩ rfl
      · have hadvance := goes_advance hs s.shellReload
        exact ⟨hadvance.plays, hadvance.kept⟩
  | proceedHangup =>
      simp only [step, proceedHangup]
      split
      · split <;> exact goes_of_same hs rfl ⟨rfl, rfl, rfl⟩ rfl
      · have hadvance := goes_advance hs s.hangupReload
        exact ⟨hadvance.plays, hadvance.kept⟩
  | take => exact goes_drive hs .take
  | noticeLoss => exact goes_drive hs .noticeLoss
  | control i => exact goes_drive hs (.control i)
  | relay panel => exact goes_relay hs panel
  | edit path content => exact goes_of_same hs rfl ⟨rfl, rfl, rfl⟩ rfl

theorem goes_run (hs : s.shell.host.IsKept) (inputs : List Input) : s.Goes (s.run inputs).2 (s.run inputs).1 := by
  induction inputs generalizing s with
  | nil => exact goes_of_same hs rfl ⟨rfl, rfl, rfl⟩ rfl
  | cons i inputs ih =>
      have hstep := goes_step hs i
      have hrun := ih hstep.kept
      exact ⟨hstep.plays.trans hrun.plays, hrun.kept⟩

/-- A session from its start on is a run of a desktop, with panels numbered from one: its controller and its
panels are those of the desktop, and the controller's acts and the requests for panels are made alike. -/
theorem session_is_desktop_run {faults : Storage.Tree.Faults} {surroundings : Surroundings} {started : Started}
    (hstart : surroundings.start faults = .ok started) (process : Nat) (inputs : List Input) :
    let first := begin started.shell process
    let last := first.1.run inputs
    ∃ did left, (Desktop.run { nextPanel := 1 } did).1 = last.1.desktop left ∧
      (Desktop.run { nextPanel := 1 } did).2.filter (·.isSeen) =
        (first.2 ++ last.2).filterMap Act.desktop? := by
  intro first last
  obtain ⟨hnext, hopened, hboard⟩ := Surroundings.panels_of_start hstart
  let rest : Session := { shell := started.shell, process }
  have hkept : rest.shell.host.IsKept :=
    Host.SamePanels.isKept (h := Host.fresh {} ⟨[]⟩ none ⟨[]⟩ none) ⟨hnext, hopened, hboard⟩
      ⟨[], Host.keeps_fresh ..⟩
  have hfirst : rest.Goes first.2 first.1 :=
    goes_moved hkept (Loop.begin (started.shell.editor process)).1 (started.shell.editor process)
      (.perform .restart) rfl
  have hlast := goes_run hfirst.kept inputs
  obtain ⟨did, left, acts, hrun, hseen⟩ := (hfirst.plays.trans hlast.plays) []
  have hstart : rest.desktop [] = { nextPanel := 1 } := by
    simp only [rest, desktop, Host.desktop, hnext, hboard]
    rfl
  rw [hstart] at hrun
  exact ⟨did, left, by rw [hrun], by rw [hrun]; exact hseen⟩

end Session

end Terminal

end ServerLink
