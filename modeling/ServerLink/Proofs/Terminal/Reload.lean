import Mathlib.Data.List.Infix
import ServerLink.Proofs.Controller.Restart
import ServerLink.Proofs.Terminal.Offer

/-!
Reloads of the settings at the terminal. Whatever is set is what the next start reads, and since a reload was
asked for only that has been set which the file yields, unless another reload had read the file by then and not
yet set what it read: then that may be set last.
-/

namespace ServerLink.Terminal

open Controller (Loop)

deriving instance DecidableEq for Reload

/-- A reload is yet to set what it reads. -/
def Reload.isPending : Reload → Bool
  | .load | .set _ => true
  | _ => false

theorem Host.settings_post (h : Host) (m : Panel.Message) : (h.post m).2.settings = h.settings := by
  unfold post
  dsimp only
  split
  · rfl
  · split <;> rfl

theorem Host.settings_closeLatest (h : Host) : h.closeLatest.2.settings = h.settings := by
  unfold closeLatest
  split <;> rfl

theorem Host.settings_choose (h : Host) (n : Nat) : (h.choose n).2.settings = h.settings := by
  unfold choose
  split <;> rfl

theorem Shell.execute_settings (shell : Shell) (c : Command) :
    (shell.execute c).1.host.settings = shell.host.settings ∧
      (shell.execute c).2.reloads = decide (c = .reload) := by
  cases c with
  | choose n =>
      simp only [execute]
      split <;> exact ⟨shell.host.settings_choose n, by simp⟩
  | document action path =>
      simp only [execute]
      split <;> exact ⟨rfl, by simp⟩
  | post m =>
      simp only [execute]
      split <;> exact ⟨shell.host.settings_post m, by simp⟩
  | closePanel =>
      simp only [execute]
      split <;> exact ⟨shell.host.settings_closeLatest, by simp⟩
  | _ => exact ⟨rfl, by simp [execute]⟩

namespace Session

def fileSettings (s : Session) : Settings :=
  (Shell.loadSettings s.shell.environment s.shell.tree).1

def settings (s : Session) : Settings :=
  s.shell.host.settings

/-- Whether an input asks for a reload: at the prompt, or by hanging up. -/
def requests (s : Session) : Input → Bool
  | .line text => s.isPrompt && decide (Command.parse text = .reload)
  | .hangUp => true
  | _ => false

/-- The target of the start that an act begins; the settings may name none. -/
def Act.start? : Act → Option (Option Controller.Target)
  | .controller act => act.start?
  | _ => none

/-- The settings that a start reads in a step, if a client is started in it. -/
def read? (s : Session) (i : Input) : Option Settings :=
  if ((s.step i).2.filterMap Act.start?).isEmpty then none else some s.settings

/-- What happens to the controller and its channel in a step. -/
def Input.drives? : Input → Option Loop.Input
  | .take => some .take
  | .noticeLoss => some .noticeLoss
  | .control i => some (.control i)
  | _ => none

/-- The settings that the last start of a run reads, behind one that read those that are given. -/
def lastRead (s : Session) (read : Settings) : List Input → Settings
  | [] => read
  | i :: inputs => (s.step i).1.lastRead ((s.read? i).getD read) inputs

/-- All reloads that were asked for are done, and all events have been handled. -/
structure Quiet (s : Session) : Prop where
  shell : s.shellReload = .none
  hangup : s.hangupReload = .none
  noticed : s.hungUp = false
  empty : s.loop.queue = []
  ready : s.controller.isReady = true

/-- The controller is going to start a client because of changed settings. -/
def IsDue (s : Session) : Prop :=
  .settingsChanged ∈ s.loop.queue ∨ s.controller.Restarts

variable {s t : Session}

instance (s : Session) : Decidable s.Quiet :=
  decidable_of_iff (s.shellReload = .none ∧ s.hangupReload = .none ∧ s.hungUp = false ∧
      s.loop.queue.isEmpty = true ∧ s.controller.isReady = true)
    ⟨fun ⟨hshell, hhangup, hnoticed, hempty, hready⟩ =>
      ⟨hshell, hhangup, hnoticed, List.isEmpty_iff.mp hempty, hready⟩,
    fun ⟨hshell, hhangup, hnoticed, hempty, hready⟩ =>
      ⟨hshell, hhangup, hnoticed, List.isEmpty_iff.mpr hempty, hready⟩⟩

/-- What the next step of a reload does, and how far the reload has come then. -/
inductive Advances (s t : Session) : Reload → Reload → Prop where
  | waits (reload : Reload) (hsettings : t.settings = s.settings) (hdue : s.IsDue → t.IsDue) :
      Advances s t reload reload
  | reads (hsettings : t.settings = s.settings) (hdue : s.IsDue → t.IsDue) :
      Advances s t .load (.set s.fileSettings)
  | sets (settings : Settings) (hsettings : t.settings = settings) : Advances s t (.set settings) .tell
  | tells (hsettings : t.settings = s.settings) (hdue : t.IsDue) : Advances s t .tell .none

/-- What a step does to the reloads and to the settings, and which settings a start reads in it. -/
inductive Turn (s t : Session) : Option Settings → Prop where
  | rests {read : Option Settings} (hshell : t.shellReload = s.shellReload)
      (hhangup : t.hangupReload = s.hangupReload) (hhungUp : t.hungUp = s.hungUp)
      (hsettings : t.settings = s.settings) (hread : read = none ∨ read = some s.settings)
      (hdue : s.IsDue → t.IsDue ∨ read = some s.settings) : Turn s t read
  | asks (hidle : s.shellReload = .none) (hshell : t.shellReload = .load)
      (hhangup : t.hangupReload = s.hangupReload) (hhungUp : t.hungUp = s.hungUp)
      (hsettings : t.settings = s.settings) (hdue : s.IsDue → t.IsDue) : Turn s t none
  | hangsUp (hshell : t.shellReload = s.shellReload) (hhangup : t.hangupReload = s.hangupReload)
      (hhungUp : t.hungUp = true) (hsettings : t.settings = s.settings) (hdue : s.IsDue → t.IsDue) :
      Turn s t none
  | notices (hshell : t.shellReload = s.shellReload) (hidle : s.hangupReload = .none)
      (hhangup : t.hangupReload = .load) (hsettings : t.settings = s.settings)
      (hdue : s.IsDue → t.IsDue) : Turn s t none
  | shell (hshell : s.Advances t s.shellReload t.shellReload) (hhangup : t.hangupReload = s.hangupReload)
      (hhungUp : t.hungUp = s.hungUp) : Turn s t none
  | hangup (hshell : t.shellReload = s.shellReload) (hhangup : s.Advances t s.hangupReload t.hangupReload)
      (hhungUp : t.hungUp = s.hungUp) : Turn s t none

theorem Advances.congr {u : Session} {reload left : Reload} (h : s.Advances t reload left)
    (hsettings : u.settings = t.settings) (hloop : u.loop = t.loop) : s.Advances u reload left := by
  have hdue : t.IsDue → u.IsDue := by
    rw [IsDue, IsDue, controller, controller, hloop]
    exact id
  cases h with
  | waits reload hsame hkept => exact .waits reload (hsettings.trans hsame) (hdue ∘ hkept)
  | reads hsame hkept => exact .reads (hsettings.trans hsame) (hdue ∘ hkept)
  | sets settings hset => exact .sets settings (hsettings.trans hset)
  | tells hsame htold => exact .tells (hsettings.trans hsame) (hdue htold)

theorem isClosed_send (hopen : s.loop.isClosed = false) (event : Controller.Event) :
    (s.loop.send event).isClosed = false := by
  simp [Loop.send, hopen]

theorem isDue_send (hopen : s.loop.isClosed = false) (event : Controller.Event) (h : s.IsDue)
    (hloop : t.loop = s.loop.send event) : t.IsDue := by
  rw [IsDue, controller, hloop, Loop.send, hopen]
  exact h.imp (List.mem_append_left _) id

theorem advances_advance (hopen : s.loop.isClosed = false) (reload : Reload) :
    s.Advances (s.advance reload).1 reload (s.advance reload).2.1 ∧
      (s.advance reload).1.loop.isClosed = false := by
  cases reload with
  | none => exact ⟨.waits .none rfl id, hopen⟩
  | load => exact ⟨.reads rfl id, hopen⟩
  | set settings => exact ⟨.sets settings rfl, hopen⟩
  | tell =>
      unfold advance
      dsimp only
      split
      · refine ⟨.tells rfl (.inl ?_), isClosed_send hopen _⟩
        simp [Loop.send, hopen]
      · exact ⟨.waits .tell rfl id, hopen⟩

theorem advance_reloads (s : Session) (reload : Reload) :
    (s.advance reload).1.shellReload = s.shellReload ∧
      (s.advance reload).1.hangupReload = s.hangupReload ∧ (s.advance reload).1.hungUp = s.hungUp ∧
      (s.advance reload).2.2.filterMap Act.start? = [] := by
  cases reload with
  | tell =>
      unfold advance
      dsimp only
      split <;> exact ⟨rfl, rfl, rfl, rfl⟩
  | load =>
      refine ⟨rfl, rfl, rfl, ?_⟩
      simp [advance, List.filterMap_map, Function.comp_def, Act.start?]
  | none | set => exact ⟨rfl, rfl, rfl, rfl⟩

theorem start?_of_drives? {i : Input} (hi : i.drives? = none) :
    (s.step i).2.filterMap Act.start? = [] := by
  cases i with
  | take | noticeLoss | control => cases hi
  | line text =>
      simp only [step, enter]
      split
      · simp [List.filterMap_map, Function.comp_def, Act.start?]
      · rfl
  | proceedShell =>
      simp only [step, proceedShell]
      split
      · split <;> rfl
      · exact (s.advance_reloads s.shellReload).2.2.2
  | proceedHangup =>
      simp only [step, proceedHangup]
      split
      · rfl
      · exact (s.advance_reloads s.hangupReload).2.2.2
  | relay panel => cases h : (s.shell.host.board.relay panel).1 <;> simp [step, relay, h, Act.start?]
  | endInput | hangUp | edit => rfl

theorem read?_of_drives? {i : Input} (hi : i.drives? = none) : s.read? i = none := by
  rw [read?, start?_of_drives? hi]
  rfl

theorem turn_of_same {i : Input} {acts : List Act} (hi : i.drives? = none) (hstep : s.step i = (t, acts))
    (hshell : t.shellReload = s.shellReload) (hhangup : t.hangupReload = s.hangupReload)
    (hhungUp : t.hungUp = s.hungUp) (hsettings : t.settings = s.settings) (hdue : s.IsDue → t.IsDue) :
    s.Turn (s.step i).1 (s.read? i) := by
  rw [read?_of_drives? hi, hstep]
  exact .rests hshell hhangup hhungUp hsettings (.inl rfl) fun h => .inl (hdue h)

theorem enter_reloads (hprompt : s.isPrompt = true) (text : String) :
    (s.enter text).1.shellReload = (if Command.parse text = .reload then .load else .none) ∧
      (s.enter text).1.hangupReload = s.hangupReload ∧ (s.enter text).1.hungUp = s.hungUp ∧
      (s.enter text).1.settings = s.settings := by
  obtain ⟨hsettings, hreloads⟩ := s.shell.execute_settings (Command.parse text)
  rw [enter, if_pos hprompt, settings, settings]
  generalize s.shell.execute (Command.parse text) = executed at hsettings hreloads ⊢
  dsimp only
  rw [hreloads]
  split <;> exact ⟨by simp, rfl, rfl, hsettings⟩

theorem turn_enter (s : Session) (text : String) :
    s.Turn (s.step (.line text)).1 (s.read? (.line text)) ∧ (s.step (.line text)).1.loop = s.loop := by
  by_cases hprompt : s.isPrompt = true
  · obtain ⟨-, hloop, -⟩ := enter_eq hprompt text
    obtain ⟨hshell, hhangup, hhungUp, hsettings⟩ := enter_reloads hprompt text
    have hidle : s.shellReload = .none := by
      simp only [isPrompt, Bool.and_eq_true] at hprompt
      cases hreload : s.shellReload with
      | none => rfl
      | _ => simp [hreload] at hprompt
    have hdue : s.IsDue → (s.enter text).1.IsDue := by
      rw [IsDue, IsDue, controller, controller, hloop]
      exact id
    refine ⟨?_, hloop⟩
    split at hshell
    · rw [read?_of_drives? rfl]
      exact .asks hidle hshell hhangup hhungUp hsettings hdue
    · exact turn_of_same rfl rfl (hshell.trans hidle.symm) hhangup hhungUp hsettings hdue
  · have hsame : s.step (.line text) = (s, []) := if_neg hprompt
    exact ⟨turn_of_same rfl hsame rfl rfl rfl rfl id, by rw [hsame]⟩

theorem turn_proceedShell (hopen : s.loop.isClosed = false) :
    s.Turn (s.step .proceedShell).1 (s.read? .proceedShell) ∧
      (s.step .proceedShell).1.loop.isClosed = false := by
  cases hheld : s.held with
  | some event =>
      by_cases hroom : s.hasRoom = true
      · have hsent : s.step .proceedShell = ({ s with held := none, loop := s.loop.send event }, []) := by
          simp only [step, proceedShell, hheld, hroom, if_true]
        refine ⟨turn_of_same rfl hsent rfl rfl rfl rfl fun h => isDue_send hopen event h rfl, ?_⟩
        rw [hsent]
        exact isClosed_send hopen event
      · have hsame : s.step .proceedShell = (s, []) := by
          simp only [step, proceedShell, hheld, hroom, if_false, Bool.false_eq_true]
        exact ⟨turn_of_same rfl hsame rfl rfl rfl rfl id, by rwa [hsame]⟩
  | none =>
      obtain ⟨hadvances, hstill⟩ := advances_advance hopen s.shellReload
      obtain ⟨-, hhangup, hhungUp, -⟩ := s.advance_reloads s.shellReload
      have hgoes : s.step .proceedShell = ({ (s.advance s.shellReload).1 with
          shellReload := (s.advance s.shellReload).2.1 }, (s.advance s.shellReload).2.2) := by
        simp only [step, proceedShell, hheld]
      rw [read?_of_drives? rfl, hgoes]
      exact ⟨.shell (hadvances.congr rfl rfl) hhangup hhungUp, hstill⟩

theorem turn_proceedHangup (hopen : s.loop.isClosed = false) :
    s.Turn (s.step .proceedHangup).1 (s.read? .proceedHangup) ∧
      (s.step .proceedHangup).1.loop.isClosed = false := by
  by_cases hidle : s.hangupReload = .none
  · by_cases hhungUp : s.hungUp = true
    · have hnoticed : s.step .proceedHangup = ({ s with hungUp := false, hangupReload := .load }, []) := by
        simp only [step, proceedHangup, hidle, hhungUp, if_true]
      rw [read?_of_drives? rfl, hnoticed]
      exact ⟨.notices rfl hidle rfl rfl id, hopen⟩
    · have hsame : s.step .proceedHangup = (s, []) := by
        simp only [step, proceedHangup, hidle, hhungUp, if_false, Bool.false_eq_true]
      exact ⟨turn_of_same rfl hsame rfl rfl rfl rfl id, by rwa [hsame]⟩
  · obtain ⟨hadvances, hstill⟩ := advances_advance hopen s.hangupReload
    obtain ⟨hshell, -, hhungUp, -⟩ := s.advance_reloads s.hangupReload
    have hgoes : s.step .proceedHangup = ({ (s.advance s.hangupReload).1 with
        hangupReload := (s.advance s.hangupReload).2.1 }, (s.advance s.hangupReload).2.2) := by
      cases hreload : s.hangupReload with
      | none => exact absurd hreload hidle
      | _ => simp only [step, proceedHangup, hreload]
    rw [read?_of_drives? rfl, hgoes]
    exact ⟨.hangup hshell (hadvances.congr rfl rfl) hhungUp, hstill⟩

theorem showAct_reloads (s : Session) (act : Controller.Act) :
    (s.showAct act).1.shellReload = s.shellReload ∧ (s.showAct act).1.hangupReload = s.hangupReload ∧
      (s.showAct act).1.hungUp = s.hungUp ∧ (s.showAct act).1.settings = s.settings ∧
      (s.showAct act).2.filterMap Act.start? = act.start?.toList := by
  unfold showAct
  split
  · refine ⟨rfl, rfl, rfl, rfl, ?_⟩
    simp [Act.start?, Controller.Act.start?]
  · exact ⟨rfl, rfl, rfl, rfl, rfl⟩
  · exact ⟨rfl, rfl, rfl, rfl, rfl⟩
  · refine ⟨rfl, rfl, rfl, rfl, ?_⟩
    cases hstart : act.start? <;> simp [Act.start?, hstart]

theorem showActs_reloads (s : Session) (did : List Controller.Act) :
    (s.showActs did).1.shellReload = s.shellReload ∧ (s.showActs did).1.hangupReload = s.hangupReload ∧
      (s.showActs did).1.hungUp = s.hungUp ∧ (s.showActs did).1.settings = s.settings ∧
      (s.showActs did).2.filterMap Act.start? = did.filterMap Controller.Act.start? := by
  induction did generalizing s with
  | nil => exact ⟨rfl, rfl, rfl, rfl, rfl⟩
  | cons act did ih =>
      obtain ⟨hshell, hhangup, hhungUp, hsettings, hacts⟩ := s.showAct_reloads act
      obtain ⟨hshell', hhangup', hhungUp', hsettings', hacts'⟩ := ih (s.showAct act).1
      refine ⟨hshell'.trans hshell, hhangup'.trans hhangup, hhungUp'.trans hhungUp,
        hsettings'.trans hsettings, ?_⟩
      rw [showActs, List.filterMap_append, hacts, hacts']
      cases hstart : act.start? with
      | none => rw [List.filterMap_cons_none hstart, Option.toList_none, List.nil_append]
      | some target => rw [List.filterMap_cons_some hstart, Option.toList_some, List.singleton_append]

/-- A start that is due stays so until a client is started. -/
theorem turn_drive {i : Input} {j : Loop.Input} (hj : j.isInner = true) (hstep : s.step i = s.drive j)
    (hopen : s.loop.isClosed = false) :
    s.Turn (s.step i).1 (s.read? i) ∧ (s.step i).1.loop.isClosed = false := by
  obtain ⟨-, hstill⟩ := Loop.led_lead hopen hj
  rcases s.drive_cases j with ⟨hnone, hdrive⟩ | ⟨k, hk, hdrive⟩
  · rw [← hstep] at hdrive
    have hread : s.read? i = none := by
      rw [read?, hdrive]
      rfl
    rw [hread, hdrive]
    refine ⟨.rests rfl rfl rfl rfl (.inl rfl) ?_, hstill⟩
    rintro (hmem | hrestarts)
    · rcases Loop.settingsChanged_lead hj hmem with hkept | ⟨hled, -⟩
      · exact .inl (.inl hkept)
      · rw [hnone] at hled
        cases hled
    · refine .inl (.inr ?_)
      rwa [controller, Loop.controller_lead]
  · rw [← hstep] at hdrive
    obtain ⟨hloop, -⟩ := showActs_spec
      { s with loop := { (s.loop.lead j).1 with
        controller := (s.controller.step (s.shell.editor s.process) k).1 } }
      (s.controller.step (s.shell.editor s.process) k).2
    obtain ⟨hshell, hhangup, hhungUp, hsettings, hacts⟩ := showActs_reloads
      { s with loop := { (s.loop.lead j).1 with
        controller := (s.controller.step (s.shell.editor s.process) k).1 } }
      (s.controller.step (s.shell.editor s.process) k).2
    rw [← hdrive] at hloop hshell hhangup hhungUp hsettings hacts
    refine ⟨.rests hshell hhangup hhungUp hsettings ?_ ?_, by rw [hloop]; exact hstill⟩
    · rw [read?]
      split
      · exact .inl rfl
      · exact .inr rfl
    · intro hdue
      have hnext : (s.step i).1.IsDue ∨
          (s.controller.step (s.shell.editor s.process) k).2.filterMap Controller.Act.start? =
            [Controller.Target.ofEditor? (s.shell.editor s.process)] := by
        rw [IsDue, controller, hloop]
        rcases hdue with hmem | hrestarts
        · rcases Loop.settingsChanged_lead hj hmem with hkept | ⟨hled, hready⟩
          · exact .inl (.inl hkept)
          · obtain rfl := Option.some.inj (hk.symm.trans hled)
            exact (Controller.restarts_of_settingsChanged hready _).imp .inr id
        · exact (hrestarts.step _ k).imp .inr id
      rcases hnext with hlater | hnow
      · exact .inl hlater
      · rw [read?, hacts, hnow]
        exact .inr rfl

theorem turn_step (hopen : s.loop.isClosed = false) (i : Input) :
    s.Turn (s.step i).1 (s.read? i) ∧ (s.step i).1.loop.isClosed = false := by
  cases i with
  | line text =>
      obtain ⟨hturn, hloop⟩ := s.turn_enter text
      exact ⟨hturn, by rwa [hloop]⟩
  | endInput =>
      have hended : s.endInput = s ∨
          s.endInput = { s with shellRuns := false, held := some .shutdown } := by
        unfold endInput
        split
        · exact .inr rfl
        · exact .inl rfl
      have hstep : s.step .endInput = (s.endInput, []) := rfl
      rcases hended with hended | hended <;> rw [hended] at hstep
      · exact ⟨turn_of_same rfl hstep rfl rfl rfl rfl id, by rwa [hstep]⟩
      · exact ⟨turn_of_same rfl hstep rfl rfl rfl rfl id, by rwa [hstep]⟩
  | hangUp => exact ⟨.hangsUp rfl rfl rfl rfl id, hopen⟩
  | proceedShell => exact turn_proceedShell hopen
  | proceedHangup => exact turn_proceedHangup hopen
  | take => exact turn_drive (j := .take) rfl rfl hopen
  | noticeLoss => exact turn_drive (j := .noticeLoss) rfl rfl hopen
  | control i => exact turn_drive (j := .control i) rfl rfl hopen
  | relay panel => exact ⟨turn_of_same rfl rfl rfl rfl rfl rfl id, hopen⟩
  | edit path content => exact ⟨turn_of_same rfl rfl rfl rfl rfl rfl id, hopen⟩

theorem run_append (s : Session) (inputs more : List Input) :
    s.run (inputs ++ more) =
      (((s.run inputs).1.run more).1, (s.run inputs).2 ++ ((s.run inputs).1.run more).2) := by
  induction inputs generalizing s with
  | nil => rfl
  | cons i inputs ih => simp [run, ih]

theorem isClosed_run (hopen : s.loop.isClosed = false) (inputs : List Input) :
    (s.run inputs).1.loop.isClosed = false := by
  induction inputs generalizing s with
  | nil => exact hopen
  | cons i inputs ih => exact ih (turn_step hopen i).2

/-- The last start read what is set, unless the controller is yet to be told or to start. -/
def Told (s : Session) (read : Settings) : Prop :=
  s.shellReload ≠ .tell → s.hangupReload ≠ .tell → ¬s.IsDue → read = s.settings

theorem Advances.untold {reload left : Reload} (h : s.Advances t reload left) (hleft : left ≠ .tell)
    (hdue : ¬t.IsDue) : t.settings = s.settings ∧ reload ≠ .tell ∧ ¬s.IsDue := by
  cases h with
  | waits _ hsettings hkept => exact ⟨hsettings, hleft, fun hs => hdue (hkept hs)⟩
  | reads hsettings hkept => exact ⟨hsettings, nofun, fun hs => hdue (hkept hs)⟩
  | sets => exact absurd rfl hleft
  | tells _ htold => exact absurd htold hdue

theorem Told.turn {read : Settings} {now : Option Settings} (h : s.Told read) (turn : s.Turn t now) :
    t.Told (now.getD read) := by
  intro hshell hhangup hdue
  cases turn with
  | rests hshell' hhangup' _ hsettings hread hkept =>
      rw [hsettings]
      rcases hread with rfl | rfl
      · exact h (hshell' ▸ hshell) (hhangup' ▸ hhangup) fun hs => (hkept hs).elim hdue nofun
      · rfl
  | asks hidle _ hhangup' _ hsettings hkept =>
      rw [hsettings]
      exact h (by rw [hidle]; nofun) (hhangup' ▸ hhangup) fun hs => hdue (hkept hs)
  | hangsUp hshell' hhangup' _ hsettings hkept =>
      rw [hsettings]
      exact h (hshell' ▸ hshell) (hhangup' ▸ hhangup) fun hs => hdue (hkept hs)
  | notices hshell' hidle _ hsettings hkept =>
      rw [hsettings]
      exact h (hshell' ▸ hshell) (by rw [hidle]; nofun) fun hs => hdue (hkept hs)
  | shell hadvances hhangup' =>
      obtain ⟨hsettings, hbefore, hundue⟩ := hadvances.untold hshell hdue
      rw [hsettings]
      exact h hbefore (hhangup' ▸ hhangup) hundue
  | hangup hshell' hadvances =>
      obtain ⟨hsettings, hbefore, hundue⟩ := hadvances.untold hhangup hdue
      rw [hsettings]
      exact h (hshell' ▸ hshell) hbefore hundue

theorem Told.run {read : Settings} (h : s.Told read) (hopen : s.loop.isClosed = false)
    (inputs : List Input) : (s.run inputs).1.Told (s.lastRead read inputs) := by
  induction inputs generalizing s read with
  | nil => exact h
  | cons i inputs ih =>
      obtain ⟨hturn, hstill⟩ := turn_step hopen i
      exact ih (h.turn hturn) hstill

/-- What is set and what is to be set fits. The task that waits for the terminal to hang up may hold anything
while it has yet to take notice, for then it reads the file once more. -/
structure Fresh (fits : Settings → Prop) (s : Session) : Prop where
  shell : ∀ settings, s.shellReload = .set settings → fits settings
  hangup : s.hungUp = false → ∀ settings, s.hangupReload = .set settings → fits settings
  settled : s.shellReload.isPending = false → s.hangupReload.isPending = false → s.hungUp = false →
    fits s.settings

variable {fits : Settings → Prop}

theorem Advances.fresh {reload left : Reload} (h : s.Advances t reload left)
    (hread : fits s.fileSettings) (hset : ∀ settings, reload = .set settings → fits settings) :
    (∀ settings, left = .set settings → fits settings) ∧
      (left.isPending = false → fits t.settings ∨ t.settings = s.settings ∧ reload.isPending = false) := by
  cases h with
  | waits _ hsettings => exact ⟨hset, fun hleft => .inr ⟨hsettings, hleft⟩⟩
  | reads =>
      refine ⟨?_, nofun⟩
      rintro settings ⟨⟩
      exact hread
  | sets settings hsettings => exact ⟨nofun, fun _ => .inl (hsettings ▸ hset settings rfl)⟩
  | tells hsettings => exact ⟨nofun, fun _ => .inr ⟨hsettings, rfl⟩⟩

theorem Fresh.turn {now : Option Settings} (h : s.Fresh fits) (hread : fits s.fileSettings)
    (turn : s.Turn t now) : t.Fresh fits := by
  cases turn with
  | rests hshell hhangup hhungUp hsettings =>
      constructor
      · exact hshell ▸ h.shell
      · rw [hhungUp, hhangup]
        exact h.hangup
      · rw [hshell, hhangup, hhungUp, hsettings]
        exact h.settled
  | asks _ hshell hhangup hhungUp =>
      constructor
      · rw [hshell]
        exact nofun
      · rw [hhungUp, hhangup]
        exact h.hangup
      · rw [hshell]
        exact nofun
  | hangsUp hshell _ hhungUp =>
      constructor
      · exact hshell ▸ h.shell
      · rw [hhungUp]
        exact nofun
      · rw [hhungUp]
        exact nofun
  | notices hshell _ hhangup =>
      constructor
      · exact hshell ▸ h.shell
      · rw [hhangup]
        exact nofun
      · rw [hhangup]
        exact nofun
  | shell hadvances hhangup hhungUp =>
      obtain ⟨hset, hsettled⟩ := hadvances.fresh hread h.shell
      refine ⟨hset, ?_, ?_⟩
      · rw [hhungUp, hhangup]
        exact h.hangup
      · rw [hhangup, hhungUp]
        intro hshell hdone hnoticed
        rcases hsettled hshell with hfits | ⟨hsettings, hbefore⟩
        · exact hfits
        · exact hsettings ▸ h.settled hbefore hdone hnoticed
  | hangup hshell hadvances hhungUp =>
      refine ⟨hshell ▸ h.shell, ?_, ?_⟩
      · rw [hhungUp]
        exact fun hnoticed => (hadvances.fresh hread (h.hangup hnoticed)).1
      · rw [hshell, hhungUp]
        intro hdone hhangup hnoticed
        rcases (hadvances.fresh hread (h.hangup hnoticed)).2 hhangup with hfits | ⟨hsettings, hbefore⟩
        · exact hfits
        · exact hsettings ▸ h.settled hdone hbefore hnoticed

theorem Fresh.run (h : s.Fresh fits) (hopen : s.loop.isClosed = false) {inputs : List Input}
    (hfile : ∀ early, early <+: inputs → fits (s.run early).1.fileSettings) :
    (s.run inputs).1.Fresh fits := by
  induction inputs generalizing s with
  | nil => exact h
  | cons i inputs ih =>
      obtain ⟨hturn, hstill⟩ := turn_step hopen i
      refine ih (h.turn (hfile [] List.nil_prefix) hturn) hstill ?_
      intro early hearly
      exact hfile (i :: early) (List.cons_prefix_cons.mpr ⟨rfl, hearly⟩)

/-- When a reload is asked for, only what another one has read and not set may be older than what is read
from then on. -/
theorem fresh_of_requests {i : Input} (hrequest : s.requests i = true)
    (hshell : ∀ settings, (s.step i).1.shellReload = .set settings → fits settings)
    (hhangup : (s.step i).1.hungUp = false →
      ∀ settings, (s.step i).1.hangupReload = .set settings → fits settings) :
    (s.step i).1.Fresh fits := by
  refine ⟨hshell, hhangup, ?_⟩
  cases i with
  | line text =>
      obtain ⟨hprompt, hreload⟩ := Bool.and_eq_true_iff.mp hrequest
      have hloads : (s.step (.line text)).1.shellReload = .load :=
        (enter_reloads hprompt text).1.trans (if_pos (of_decide_eq_true hreload))
      rw [hloads]
      exact nofun
  | hangUp => exact fun _ _ => nofun
  | _ => cases hrequest

/-- A step starts one client at most, and that with the target which the settings name that the start reads. -/
theorem start?_step (s : Session) (i : Input) : (s.step i).2.filterMap Act.start? =
    ((s.read? i).map fun settings =>
      Controller.Target.ofEditor? { s.shell.editor s.process with settings }).toList := by
  have hdriven (j : Loop.Input) : (s.drive j).2.filterMap Act.start? = [] ∨
      (s.drive j).2.filterMap Act.start? =
        [Controller.Target.ofEditor? (s.shell.editor s.process)] := by
    rcases s.drive_cases j with ⟨-, hdrive⟩ | ⟨k, -, hdrive⟩
    · rw [hdrive]
      exact .inl rfl
    · rw [hdrive, (showActs_reloads _ _).2.2.2.2]
      exact Controller.named_step (s.shell.editor s.process) s.controller k
  have hcases : (s.step i).2.filterMap Act.start? = [] ∨ (s.step i).2.filterMap Act.start? =
      [Controller.Target.ofEditor? (s.shell.editor s.process)] := by
    cases i with
    | take => exact hdriven .take
    | noticeLoss => exact hdriven .noticeLoss
    | control i => exact hdriven (.control i)
    | _ => exact .inl (start?_of_drives? rfl)
  rw [read?]
  rcases hcases with hnone | hone
  · rw [hnone]
    rfl
  · rw [hone]
    rfl

theorem begin_starts (shell : Shell) (process : Nat) :
    (begin shell process).2.filterMap Act.start? = [Controller.Target.ofEditor? (shell.editor process)] ∧
      (begin shell process).1.settings = shell.host.settings ∧
      (begin shell process).1.loop.isClosed = false := by
  obtain ⟨hloop, -⟩ := showActs_spec { shell, loop := (Loop.begin (shell.editor process)).1, process }
    (Loop.begin (shell.editor process)).2
  obtain ⟨-, -, -, hsettings, hacts⟩ := showActs_reloads
    { shell, loop := (Loop.begin (shell.editor process)).1, process } (Loop.begin (shell.editor process)).2
  exact ⟨hacts.trans (Controller.start?_begin (shell.editor process) {}), hsettings, congrArg Loop.isClosed hloop⟩

/-- The last reload in a session. A session begins with a start, and every start tries the target that the
settings name which it reads. When all is done, the settings that are set are those that the last start read.
They are those that the file has yielded ever since a reload was asked for, unless another reload held settings
then which it had read before: it may set them after the last one. -/
theorem last_reload_wins_unless_overtaken (shell : Shell) (process : Nat) (earlier : List Input) (request : Input)
    (later : List Input) :
    let first := (begin shell process).1
    let asked := ((first.run earlier).1.step request).1
    let last := (first.run (earlier ++ request :: later)).1
    (begin shell process).2.filterMap Act.start? = [Controller.Target.ofEditor? (shell.editor process)] ∧
    (∀ (s : Session) i, (s.step i).2.filterMap Act.start? = ((s.read? i).map fun settings =>
      Controller.Target.ofEditor? { s.shell.editor s.process with settings }).toList) ∧
    ((first.run earlier).1.requests request = true →
      (∀ early, early <+: later → (asked.run early).1.fileSettings = last.fileSettings) →
      last.Quiet →
      first.lastRead shell.host.settings (earlier ++ request :: later) = last.settings ∧
        (last.settings = last.fileSettings ∨ asked.shellReload = .set last.settings ∨
          asked.hangupReload = .set last.settings ∧ asked.hungUp = false)) := by
  intro first asked last
  obtain ⟨hstarts, hsettings, hopen⟩ := begin_starts shell process
  refine ⟨hstarts, start?_step, ?_⟩
  intro hrequest hfile hquiet
  have hsplit := congrArg Prod.fst (run_append first earlier (request :: later))
  have hlast : last = (asked.run later).1 := hsplit
  constructor
  · -- By `Told` along the whole run: nothing is left that would tell or start.
    have htold : first.Told shell.host.settings := fun _ _ _ => hsettings.symm
    refine htold.run hopen _ ?_ ?_ ?_
    · rw [hquiet.shell]
      nofun
    · rw [hquiet.hangup]
      nofun
    · rintro (hmem | hrestarts)
      · rw [hquiet.empty] at hmem
        cases hmem
      · exact Controller.not_restarts_of_isReady hquiet.ready hrestarts
  · -- By `Fresh` from the request on: what the file yields fits, and what is held at the request.
    have hfresh : asked.Fresh fun settings => settings = last.fileSettings ∨
        asked.shellReload = .set settings ∨ asked.hangupReload = .set settings ∧ asked.hungUp = false :=
      fresh_of_requests hrequest (fun _ h => .inr (.inl h)) fun hnoticed _ h => .inr (.inr ⟨h, hnoticed⟩)
    have hend := hfresh.run (turn_step (isClosed_run hopen earlier) request).2
      fun early hearly => .inl (hfile early hearly)
    rw [← hlast] at hend
    exact hend.settled (by rw [hquiet.shell]; rfl) (by rw [hquiet.hangup]; rfl) hquiet.noticed

theorem exists_started {s : Surroundings} {P : Started → Prop} [DecidablePred P]
    (h : (s.start Storage.Tree.noFaults).toOption.any (decide <| P ·) = true) :
    ∃ started, s.start Storage.Tree.noFaults = .ok started ∧ P started := by
  cases hstart : s.start Storage.Tree.noFaults with
  | error lines =>
      rw [hstart] at h
      cases h
  | ok started =>
      rw [hstart] at h
      exact ⟨started, rfl, of_decide_eq_true h⟩

def otherPort : Input :=
  .edit (Path.ofText "/.jimple/config.toml") (some (Text.Utf8.bytes "lsp.transport='socket'\nlsp.port=9000"))

/-- The terminal has hung up when the file is edited. -/
def hungUpBefore : List Input :=
  [.control (.reached .failed), .hangUp, otherPort]

/-- Both reloads read the file, and the one that was asked for first sets what it read last. -/
def bothReload : List Input :=
  [.proceedHangup, .proceedHangup, .proceedShell, .proceedShell, .proceedHangup, .proceedHangup, .take,
    .proceedShell, .control (.reached .failed), .take, .control (.reached .failed)]

theorem last_reload_wins_unless_overtaken_both :
    ∃ started, newHome.start Storage.Tree.noFaults = .ok started ∧
      let first := (begin started.shell 7).1
      let last := (first.run (hungUpBefore ++ .line "reload" :: bothReload)).1
      last.Quiet ∧ last.settings = last.fileSettings ∧ last.fileSettings.port = 9000 ∧
      first.lastRead started.shell.host.settings (hungUpBefore ++ .line "reload" :: bothReload) =
        last.fileSettings := by
  obtain ⟨started, hstart, hrequest, hfile, hquiet, hshell, hhangup, hport⟩ :=
    exists_started (s := newHome) (P := fun started =>
      let first := (begin started.shell 7).1
      let asked := ((first.run hungUpBefore).1.step (.line "reload")).1
      let last := (first.run (hungUpBefore ++ .line "reload" :: bothReload)).1
      (first.run hungUpBefore).1.requests (.line "reload") = true ∧
        (∀ early ∈ bothReload.inits, (asked.run early).1.fileSettings = last.fileSettings) ∧
        last.Quiet ∧ asked.shellReload = .load ∧ asked.hangupReload = .none ∧
        last.fileSettings.port = 9000) (by decide +kernel)
  obtain ⟨-, -, hlast⟩ := last_reload_wins_unless_overtaken started.shell 7 hungUpBefore
    (.line "reload") bothReload
  obtain ⟨hread, hsettings⟩ := hlast hrequest
    (fun early hearly => hfile early ((List.mem_inits _ _).mpr hearly)) hquiet
  rw [hshell, hhangup] at hsettings
  have hsame := hsettings.resolve_right nofun
  exact ⟨started, hstart, hquiet, hsame, hport, hread.trans hsame⟩

/-- A reload has read the file when it is edited. -/
def readBefore : List Input :=
  [.control (.reached .failed), .hangUp, .proceedHangup, .proceedHangup, otherPort]

/-- The shell reloads the settings and a client is started; then the other reload sets what it read before. -/
def setBehind : List Input :=
  [.proceedShell, .proceedShell, .proceedShell, .take, .control (.reached .failed),
    .proceedHangup, .proceedHangup, .take, .control (.reached .failed)]

/-- What was read before the file was edited is set in the end, and started with, though all is done and the
last reload was asked for behind the edit. -/
theorem older_settings_win :
    ∃ started, newHome.start Storage.Tree.noFaults = .ok started ∧
      let first := (begin started.shell 7).1
      let asked := ((first.run readBefore).1.step (.line "reload")).1
      let last := (first.run (readBefore ++ .line "reload" :: setBehind)).1
      (first.run readBefore).1.requests (.line "reload") = true ∧
      (∀ early, early <+: setBehind → (asked.run early).1.fileSettings = last.fileSettings) ∧
      last.Quiet ∧ last.fileSettings.port = 9000 ∧ last.settings.port = 2403 ∧
      (first.lastRead started.shell.host.settings (readBefore ++ .line "reload" :: setBehind)).port =
        2403 := by
  obtain ⟨started, hstart, hrequest, hfile, hrest⟩ :=
    exists_started (s := newHome) (P := fun started =>
      let first := (begin started.shell 7).1
      let asked := ((first.run readBefore).1.step (.line "reload")).1
      let last := (first.run (readBefore ++ .line "reload" :: setBehind)).1
      (first.run readBefore).1.requests (.line "reload") = true ∧
        (∀ early ∈ setBehind.inits, (asked.run early).1.fileSettings = last.fileSettings) ∧
        last.Quiet ∧ last.fileSettings.port = 9000 ∧ last.settings.port = 2403 ∧
        (first.lastRead started.shell.host.settings
          (readBefore ++ .line "reload" :: setBehind)).port = 2403) (by decide +kernel)
  exact ⟨started, hstart, hrequest, fun early hearly => hfile early ((List.mem_inits _ _).mpr hearly), hrest⟩

end Session

end ServerLink.Terminal
