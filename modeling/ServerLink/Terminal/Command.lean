import ServerLink.Decimal.Natural
import ServerLink.Document.Watch
import ServerLink.Panel.Message
import ServerLink.Path.Basic
import ServerLink.Text.Blank
/-!
The commands that are typed at the terminal: a first word and, for some, what follows it. Blanks around a
line and between words do not count, while those inside a path or a text do.
-/

namespace ServerLink.Terminal

inductive DocumentAction where
  | opens
  | changes
  | saves
  | closes
  deriving DecidableEq, Repr

namespace DocumentAction

def all : List DocumentAction := [.opens, .changes, .saves, .closes]

def word : DocumentAction → String
  | .opens => "open"
  | .changes => "change"
  | .saves => "save"
  | .closes => "close"

def ofWord? (word : String) : Option DocumentAction :=
  all.find? (·.word == word)

end DocumentAction

inductive Command where
  | blank
  | choose (number : Nat)
  /-- Posts a message in the newest panel. -/
  | post (m : Panel.Message)
  | document (action : DocumentAction) (path : Path)
  | file (kind : Document.ChangeKind) (path : Path)
  | closePanel
  | reload
  | help
  | quit
  | unknown (line : String)
  deriving DecidableEq, Repr

namespace Command

def numberBound : Nat := Nat.pow 2 64

/-- Cuts a text at its first blank, which goes. -/
def splitBlank? : List Char → Option (List Char × List Char)
  | [] => none
  | c :: s =>
      if Text.isBlank c then some ([], s)
      else (splitBlank? s).map fun (word, rest) => (c :: word, rest)

def splitWord (s : List Char) : List Char × List Char :=
  (splitBlank? s).getD (s, [])

/-- The command that reports on a path, if there is a path and the word before it has a meaning. -/
def report? (rest : List Char) (make : String → Option (Path → Command)) : Option Command :=
  match splitBlank? (Text.trim rest) with
  | none => none
  | some (word, path) =>
      if Text.trim path = [] then none
      else (make (String.ofList word)).map (· (Path.ofText (String.ofList (Text.trim path))))

/-- The command that a line without blanks at its ends is. -/
def ofTrimmed (line : List Char) : Command :=
  let (word, rest) := splitWord line
  match String.ofList word with
  | "" => .blank
  | "quit" | "exit" => .quit
  | "reload" => .reload
  | "close" => .closePanel
  | "help" => .help
  | "action" => .post ⟨"action", String.ofList (Text.trim rest)⟩
  | "configuration" => .post ⟨"configuration", String.ofList (Text.trim rest)⟩
  | "doc" =>
      (report? rest fun w => (DocumentAction.ofWord? w).map Command.document).getD
        (.unknown (String.ofList line))
  | "file" =>
      (report? rest fun w => (Document.ChangeKind.ofName? w).map Command.file).getD
        (.unknown (String.ofList line))
  | _ =>
      match Decimal.readBelow? numberBound word with
      | some n => .choose n
      | none => .unknown (String.ofList line)

def parse (line : String) : Command :=
  ofTrimmed (Text.trim line.toList)

end Command

def helpLines : List String := [
  "Commands:",
  "  <n>                          choose option n of the last prompt",
  "  action <url>                 GET from the newest panel",
  "  configuration <url>?<body>   POST from the newest panel",
  "  close                        close the newest panel",
  "  doc <open|change|save|close> <path>",
  "                               report a document event",
  "  file <created|changed|deleted> <path>",
  "                               report a watched file change",
  "  reload                       re-read settings and restart the client",
  "  quit                         stop the client and exit"]

end ServerLink.Terminal
