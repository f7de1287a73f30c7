import ServerLink.Product
import ServerLink.Release.Version

namespace ServerLink.Release

inductive Notice where
  | firstRun
  | updated (version : String)
  deriving DecidableEq, Repr

namespace Notice

/-- The notice for a recorded version and the running one. An empty record counts as none; nothing
is shown for the same text, for a version that is not newer, or where either is no version. -/
def evaluate (previous : Option String) (current : String) : Option Notice :=
  match previous with
  | none => some .firstRun
  | some previous =>
      if previous.isEmpty then some .firstRun
      else if previous = current then none
      else
        match Version.read? previous.toList, Version.read? current.toList with
        | some old, some new => if compare new old = .gt then some (.updated current) else none
        | _, _ => none

def message : Notice → String
  | .firstRun => "Thanks for using " ++ Product.name ++ "!"
  | .updated version => Product.name ++ " Plugin updated to " ++ version ++ "."

structure Action where
  label : String
  page : Option String
  deriving DecidableEq, Repr

/-- The actions offered with every notice. The first opens the settings. -/
def actions : List Action :=
  [⟨"Settings", none⟩, ⟨"Star on Github", some Product.page⟩, ⟨"Report Bug", some Product.reports⟩]

end Notice

end ServerLink.Release
