import ServerLink.Panel.Board
import ServerLink.Panel.Page
import ServerLink.Recovery
import ServerLink.Release.Notice
import ServerLink.Settings.Basic
import ServerLink.Storage.Tree
/-!
The terminal as the place where panels are opened and questions are asked. Panels are written to files and
numbered from one; a message goes to the newest panel that is open and whose session has not left. The
numbered options of the last question may be chosen once.
-/

namespace ServerLink.Terminal

open ServerLink.Storage

inductive Question where
  | recovery (prompt : Recovery.Prompt)
  | notice
  deriving DecidableEq, Repr

inductive Choice where
  | recovery (prompt : Nat) (action : Recovery.Action)
  | notice (action : Release.Notice.Action)
  deriving DecidableEq, Repr

structure Host where
  settings : Settings
  installation : Path
  workspace : Option Path
  panelDirectory : Path
  settingsFile : Option Path
  nextPanel : Nat := 1
  /-- The panels that are open, from the oldest to the newest. Those whose sessions have left are taken out
  when a message is posted. -/
  openPanels : List Nat := []
  board : Panel.Board := {}
  question : Option Question := none
  deriving Repr

namespace Host

def capacity : Nat := 16

def optionLines (labels : List String) : List String :=
  labels.zipIdx.map fun (label, i) => "  [" ++ toString (i + 1) ++ "] " ++ label

def showNotice (h : Host) (message : String) : List String × Host :=
  (message :: optionLines (Release.Notice.actions.map (·.label)), { h with question := some .notice })

def showPrompt (h : Host) (prompt : Recovery.Prompt) : List String × Host :=
  (prompt.message :: optionLines (prompt.actions.map (·.label)),
    { h with question := some (.recovery prompt) })

/-- The option that has a number, counted from one. -/
def option? (question : Question) (number : Nat) : Option Choice :=
  if number = 0 then none
  else
    match question with
    | .recovery prompt => (prompt.actions[number - 1]?).map (.recovery prompt.id ·)
    | .notice => (Release.Notice.actions[number - 1]?).map .notice

/-- Chooses an option. A question is answered once. -/
def choose (h : Host) (number : Nat) : Option Choice × Host :=
  match h.question.bind (option? · number) with
  | none => (none, h)
  | some choice => (some choice, { h with question := none })

def panelFile (h : Host) (panel : Nat) : Path :=
  h.panelDirectory.join (Path.ofText ("panel-" ++ toString panel ++ ".html"))

def savePage (h : Host) (panel : Nat) (html : String) (t : Tree) : Except FileError Unit × Tree :=
  match t.makeDirectories h.panelDirectory with
  | (.error e, t) => (.error e, t)
  | (.ok (), t) =>
      match t.write (h.panelFile panel) (Text.Utf8.bytes html) with
      | .ok t => (.ok (), t)
      | .error e => (.error e, t)

def openedLine (h : Host) (panel : Nat) (page : Panel.Page) : Except FileError Unit → String
  | .ok () => page.title ++ " [" ++ page.viewType ++ "]: " ++ (h.panelFile panel).text
  | .error e => page.title ++ " opened (not saved: " ++ e.message ++ ")"

def addPanel (h : Host) : Host :=
  { h with
    board := h.board.add h.nextPanel capacity
    nextPanel := h.nextPanel + 1
    openPanels := h.openPanels ++ [h.nextPanel] }

/-- Opens a panel, whether its page can be saved or not. -/
def createPanel (h : Host) (page : Panel.Page) (t : Tree) : (Nat × String) × Host × Tree :=
  let (saved, t) := h.savePage h.nextPanel page.html t
  ((h.nextPanel, h.openedLine h.nextPanel page saved), h.addPanel, t)

inductive PostError where
  | noPanel
  | closed (panel : Nat)
  | full (panel : Nat)
  deriving DecidableEq, Repr

def PostError.message : PostError → String
  | .noPanel => "no panel is open"
  | .closed panel => "panel PanelId(" ++ toString panel ++ ") is closed"
  | .full panel => "panel PanelId(" ++ toString panel ++ ") is busy"

/-- Takes the panels out whose sessions have left. -/
def prune (h : Host) : Host :=
  { h with openPanels := h.openPanels.filter h.board.isAttended }

/-- Posts a message to the newest panel whose session is there, and gives the number of the panel. -/
def post (h : Host) (m : Panel.Message) : Except PostError Nat × Host :=
  let h := h.prune
  match h.openPanels.getLast? with
  | none => (.error .noPanel, h)
  | some panel =>
      match h.board.post panel m with
      | .error .abandoned => (.error (.closed panel), h)
      | .error .full => (.error (.full panel), h)
      | .ok board => (.ok panel, { h with board })

def closeLatest (h : Host) : Option Nat × Host :=
  match h.openPanels.getLast? with
  | none => (none, h)
  | some panel =>
      (some panel, { h with board := h.board.close panel, openPanels := h.openPanels.dropLast })

/-- Lets the session of a panel ask for a message; a session that is not there gets none. -/
def receive (h : Host) (panel : Nat) : Option Panel.Queue.Receipt × Host :=
  let (receipt, board) := h.board.receive panel
  (receipt, { h with board })

def dropSession (h : Host) (panel : Nat) : Host :=
  { h with board := h.board.abandon panel }

def settingsLine (h : Host) : String :=
  match h.settingsFile with
  | some path => "Settings: " ++ path.text ++ " (section [lsp]); send \x60reload\x60 after editing"
  | none => "Settings: no home directory; using defaults"

end Host

end ServerLink.Terminal
