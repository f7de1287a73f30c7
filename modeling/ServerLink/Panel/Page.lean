import ServerLink.Json.Basic

namespace ServerLink.Panel

structure Page where
  viewType : String
  title : String
  html : String
  scripts : Bool
  deriving DecidableEq, Repr

def serverViewType : String := "Configuration"

def serverTitle : String := "MagpieBridge Control Panel"

/-- The notification with which the server hands a page over. -/
def notification : String := "magpiebridge/showHTML"

def capability : String := "supportsShowHTML"

def Page.ofHtml (html : String) : Page :=
  ⟨serverViewType, serverTitle, html, true⟩

/-- The text in the parameters of a notification: they are the text, or a list that begins with it. -/
def htmlOfParams? : Option Json → Option String
  | some (.string html) => some html
  | some (.array (.string html :: _)) => some html
  | _ => none

end ServerLink.Panel
