import ServerLink.Controller.Step
import ServerLink.Panel.Board
/-!
The controller and the panels of an editor. For each page that a client opens the editor opens a panel, some
time later and in any order. The window of a panel posts messages until it is closed; a session for each panel
takes them, one at a time, and makes the requests that they ask for. A session has nothing to do with the
client whose page it is, and what comes of a request is told to nobody.
-/

namespace ServerLink

structure Desktop where
  controller : Controller := {}
  /-- The pages for which there is no panel yet. -/
  pages : List Panel.Page := []
  nextPanel : Nat := 0
  board : Panel.Board := {}
  /-- The requests that have been made and not come to an end. -/
  underWay : List Panel.Request := []
  deriving Repr

def Controller.Act.page? : Controller.Act → Option Panel.Page
  | .client _ (.openedPanel page) => some page
  | _ => none

namespace Desktop

inductive Ending where
  | answered (status : Nat)
  | failed
  deriving DecidableEq, Repr

inductive Act where
  | controller (act : Controller.Act)
  | opened (panel : Nat) (page : Panel.Page)
  | posted (panel : Nat) (m : Panel.Message)
  | requested (panel : Nat) (request : Panel.Request)
  | ended (request : Panel.Request) (ending : Ending)
  deriving Repr

inductive Input where
  | control (e : Editor) (i : Controller.Input)
  /-- A panel is opened for one of the pages, in which a number of messages may wait. -/
  | opens (page capacity : Nat)
  | post (panel : Nat) (m : Panel.Message)
  | close (panel : Nat)
  | relay (panel : Nat)
  | settle (request : Nat) (ending : Ending)
  deriving Repr

def control (d : Desktop) (e : Editor) (i : Controller.Input) : Desktop × List Act :=
  let (controller, acts) := d.controller.step e i
  ({ d with controller, pages := d.pages ++ acts.filterMap Controller.Act.page? },
    acts.map .controller)

def opens (d : Desktop) (page capacity : Nat) : Desktop × List Act :=
  match d.pages[page]? with
  | none => (d, [])
  | some p =>
      ({ d with
        pages := d.pages.eraseIdx page
        nextPanel := d.nextPanel + 1
        board := d.board.add d.nextPanel capacity }, [.opened d.nextPanel p])

def isOpen (d : Desktop) (panel : Nat) : Bool :=
  (d.board.queue? panel).any fun q => !q.closed

def post (d : Desktop) (panel : Nat) (m : Panel.Message) : Desktop × List Act :=
  if d.isOpen panel then
    match d.board.post panel m with
    | .error _ => (d, [])
    | .ok board => ({ d with board }, [.posted panel m])
  else (d, [])

def relay (d : Desktop) (panel : Nat) : Desktop × List Act :=
  let (request, board) := d.board.relay panel
  ({ d with board, underWay := d.underWay ++ request.toList },
    request.toList.map (.requested panel))

def settle (d : Desktop) (request : Nat) (ending : Ending) : Desktop × List Act :=
  match d.underWay[request]? with
  | none => (d, [])
  | some r => ({ d with underWay := d.underWay.eraseIdx request }, [.ended r ending])

def step (d : Desktop) : Input → Desktop × List Act
  | .control e i => d.control e i
  | .opens page capacity => d.opens page capacity
  | .post panel m => d.post panel m
  | .close panel => ({ d with board := d.board.close panel }, [])
  | .relay panel => d.relay panel
  | .settle request ending => d.settle request ending

def run (d : Desktop) : List Input → Desktop × List Act
  | [] => (d, [])
  | i :: inputs =>
      let (d, acts) := d.step i
      let (d, more) := d.run inputs
      (d, acts ++ more)

end Desktop

end ServerLink
