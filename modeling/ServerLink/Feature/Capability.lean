import ServerLink.Json.Basic

namespace ServerLink.Feature

def membersOf (j : Json) : List (String × Json) :=
  j.fields?.getD []

/-- Puts an entry into a section. What is no object gives way to one. -/
def setCapability (capabilities : Json) (area key : String) (value : Json) : Json :=
  let sections := membersOf capabilities
  let entries := membersOf ((Assoc.find? area sections).getD .null)
  .object (Assoc.insert area (.object (Assoc.insert key value entries)) sections)

def capability? (capabilities : Json) (area key : String) : Option Json :=
  (capabilities.get? area).bind (·.get? key)

end ServerLink.Feature
