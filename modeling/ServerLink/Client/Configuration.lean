import ServerLink.Json.Basic
import ServerLink.Text.Split

namespace ServerLink.Client

def sectionKeys (area : String) : List String :=
  (Text.splitOn '.' area.toList).map String.ofList

def follow? (j : Json) : List String → Option Json
  | [] => some j
  | key :: keys => (j.get? key).bind (follow? · keys)

/-- The settings of a section: all of them if no section is named, and `null` if there is no such
section. -/
def lookUp (settings : Json) (area : String) : Json :=
  if area = "" then settings else .ofOption (follow? settings (sectionKeys area))

def requestedSettings (settings : Json) (params : Option Json) : List Json :=
  (((params.bind (·.get? "items")).bind Json.items?).getD []).map fun item =>
    lookUp settings (((item.get? "section").bind Json.string?).getD "")

end ServerLink.Client
