import ServerLink.Feature.Subscriptions

namespace ServerLink.Feature

namespace Subscriptions

/-- Subscribes a feature to all that it asks for. -/
def enlist (s : Subscriptions) (f : Feature) (i : Nat) : Subscriptions :=
  f.subscriptions.foldl (fun s (method, reaction) => s.subscribe method i reaction) s

theorem ofFeatures_eq (features : List Feature) :
    ofFeatures features = features.zipIdx.foldl (fun s (f, i) => s.enlist f i) {} := rfl

theorem find?_subscribe (s : Subscriptions) (method other : String) (i : Nat) (reaction : Reaction) :
    (s.subscribe method i reaction).find? other =
      if other = method then some (i, reaction) else s.find? other :=
  Assoc.find?_insert method other (i, reaction) s.entries

theorem find?_enlist_of_ne {f : Feature} {method : String}
    (hf : ∀ asked ∈ f.subscriptions, asked.1 ≠ method) (s : Subscriptions) (i : Nat) :
    (s.enlist f i).find? method = s.find? method := by
  refine List.foldlRecOn f.subscriptions _
    (motive := fun t : Subscriptions => t.find? method = s.find? method) rfl ?_
  intro t ht asked hasked
  rw [find?_subscribe, if_neg (hf asked hasked).symm, ht]

theorem find?_foldl_of_ne {features : List (Feature × Nat)} {method : String}
    (hall : ∀ f ∈ features, ∀ asked ∈ f.1.subscriptions, asked.1 ≠ method) (s : Subscriptions) :
    (features.foldl (fun s (f, i) => s.enlist f i) s).find? method = s.find? method := by
  refine List.foldlRecOn features _
    (motive := fun t : Subscriptions => t.find? method = s.find? method) rfl ?_
  intro t ht f hf
  rw [find?_enlist_of_ne (hall f hf), ht]

theorem asked_of_find? {features : List Feature} {method : String} {i : Nat} {reaction : Reaction}
    (h : (ofFeatures features).find? method = some (i, reaction)) :
    ∃ f ∈ features, (method, reaction) ∈ f.subscriptions := by
  let Asked (s : Subscriptions) : Prop := ∀ method i reaction,
    s.find? method = some (i, reaction) → ∃ f ∈ features, (method, reaction) ∈ f.subscriptions
  have hall : Asked (ofFeatures features) := by
    rw [ofFeatures_eq]
    refine List.foldlRecOn (motive := Asked) _ _ nofun ?_
    intro s hs f hf
    refine List.foldlRecOn (motive := Asked) _ _ hs ?_
    intro t ht asked hasked other j r hfind
    rw [find?_subscribe] at hfind
    split at hfind
    · rename_i hother
      cases hfind
      have hmem := List.fst_mem_of_mem_zipIdx hf
      exact ⟨f.1, hmem, hother ▸ hasked⟩
    · exact ht other j r hfind
  exact hall method i reaction h

end Subscriptions

/-- Among the features is the one that shows pages. No feature behind it asks for its notification, and none
shows pages upon another. -/
structure ShowsPages (features : List Feature) : Prop where
  carried : ∃ before after, features = before ++ .pages :: after ∧
    ∀ f ∈ after, ∀ asked ∈ f.subscriptions, asked.1 ≠ Panel.notification
  alone : ∀ f ∈ features, ∀ asked ∈ f.subscriptions, asked.2 = .showPage → asked.1 = Panel.notification

theorem showsPages_pages : ShowsPages [.pages] where
  carried := ⟨[], [], rfl, nofun⟩
  alone f hf asked hasked _ := by
    obtain rfl := List.mem_singleton.mp hf
    obtain rfl := List.mem_singleton.mp hasked
    rfl

/-- The subscriber to the notification shows the page, and no other subscriber shows one. -/
structure Subscriptions.ShowPages (s : Subscriptions) : Prop where
  shows : ∃ i, s.find? Panel.notification = some (i, .showPage)
  alone : ∀ method i, s.find? method = some (i, .showPage) → method = Panel.notification

theorem ShowsPages.subscribed {features : List Feature} (h : ShowsPages features) :
    (Subscriptions.ofFeatures features).ShowPages where
  shows := by
    obtain ⟨before, after, rfl, hafter⟩ := h.carried
    refine ⟨before.length, ?_⟩
    rw [Subscriptions.ofFeatures_eq, List.zipIdx_append, List.foldl_append, List.zipIdx_cons,
      List.foldl_cons, Subscriptions.find?_foldl_of_ne]
    · simp [Subscriptions.enlist, pages, Subscriptions.find?_subscribe]
    · exact fun f hf => hafter f.1 (List.fst_mem_of_mem_zipIdx hf)
  alone method i hfind := by
    obtain ⟨f, hf, hasked⟩ := Subscriptions.asked_of_find? hfind
    exact h.alone f hf _ hasked rfl

end ServerLink.Feature
