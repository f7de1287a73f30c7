import ServerLink.Feature.Basic
/-!
The notifications to which features have subscribed. A later subscription takes the place of an earlier one
to the same method.
-/

namespace ServerLink.Feature

/-- Subscribers by method: the position of a feature, and what it does. -/
structure Subscriptions where
  entries : List (String × Nat × Reaction) := []
  deriving Repr

namespace Subscriptions

def subscribe (s : Subscriptions) (method : String) (feature : Nat) (reaction : Reaction) :
    Subscriptions :=
  ⟨Assoc.insert method (feature, reaction) s.entries⟩

def find? (s : Subscriptions) (method : String) : Option (Nat × Reaction) :=
  Assoc.find? method s.entries

def contains (s : Subscriptions) (method : String) : Bool :=
  (s.find? method).isSome

def ofFeatures (features : List Feature) : Subscriptions :=
  features.zipIdx.foldl (fun s (f, i) =>
    f.subscriptions.foldl (fun s (method, reaction) => s.subscribe method i reaction) s) {}

end Subscriptions

end ServerLink.Feature
