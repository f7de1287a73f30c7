import ServerLink.Feature.Capability
import ServerLink.Feature.Registration
import ServerLink.Panel.Page

namespace ServerLink.Feature

structure Contribution where
  area : String
  key : String
  value : Json
  deriving Repr

def Contribution.add (capabilities : Json) (c : Contribution) : Json :=
  setCapability capabilities c.area c.key c.value

/-- What a feature does upon a notification to which it has subscribed. -/
inductive Reaction where
  | showPage
  | heed
  deriving DecidableEq, Repr

inductive Call where
  | contribute
  | setUp (serverCapabilities selector : Json)
  | heed (method : String) (params : Option Json)
  | register (r : Registration)
  | unregister (id : String)
  | dispose
  deriving Repr

end ServerLink.Feature

namespace ServerLink

structure Feature where
  registrationMethod : Option String := none
  contributions : List Feature.Contribution := []
  subscriptions : List (String × Feature.Reaction) := []
  deriving Repr

namespace Feature

def pages : Feature where
  contributions := [⟨"experimental", Panel.capability, .bool true⟩]
  subscriptions := [(Panel.notification, .showPage)]

def contribute (features : List Feature) (capabilities : Json) : Json :=
  (features.flatMap (·.contributions)).foldl Contribution.add capabilities

/-- The features that take registrations of a method, by their positions. -/
def takers (features : List Feature) (method : String) : List Nat :=
  (features.zipIdx.filter fun (f, _) => f.registrationMethod == some method).map (·.2)

end Feature

end ServerLink
