import ServerLink.Proofs.Client.Calls
import ServerLink.Proofs.Client.Reply
import ServerLink.Proofs.Feature.Registration

namespace ServerLink

namespace Feature

/-- What parameters ask for: calls of the features that take a method, entry by entry. -/
inductive Asks : String → Json → List (String × Call) → Prop where
  | register {j : Json} {rs : List Registration}
      (h : Lists "registrations" Registration.Denotes j rs) :
      Asks "client/registerCapability" j (rs.map fun r => (r.method, .register r))
  | unregister {j : Json} {rs : List Unregistration}
      (h : Lists "unregisterations" Unregistration.Denotes j rs) :
      Asks "client/unregisterCapability" j (rs.map fun r => (r.method, .unregister r.id))

theorem Asks.of_register {j : Json} {asked : List (String × Call)}
    (h : Asks "client/registerCapability" j asked) :
    ∃ rs, Lists "registrations" Registration.Denotes j rs := by
  generalize hmethod : "client/registerCapability" = method at h
  cases h with
  | register h => exact ⟨_, h⟩
  | unregister => exact absurd hmethod (by decide)

def registrationMethods : List String :=
  ["client/registerCapability", "client/unregisterCapability"]

/-- What a request asks for, entry by entry. -/
def entries (method : String) (params : Option Json) : List (String × Call) :=
  if method = "client/registerCapability" then
    (registrations params).map fun r => (r.method, .register r)
  else (unregistrations params).map fun r => (r.method, .unregister r.id)

theorem entries_of_asks {method : String} {j : Json} {asked : List (String × Call)}
    (h : Asks method j asked) : entries method (some j) = asked := by
  cases h with
  | register h =>
      have hlist := (only?_eq_some_iff fun _ _ => Registration.ofJson?_eq_some_iff).mpr h
      simp [entries, registrations, hlist]
  | unregister h =>
      have hlist := (only?_eq_some_iff fun _ _ => Unregistration.ofJson?_eq_some_iff).mpr h
      simp [entries, unregistrations, hlist]

theorem entries_of_not_asks {method : String} (hmethod : method ∈ registrationMethods)
    {params : Option Json} (h : ∀ j asked, params = some j → ¬ Asks method j asked) :
    entries method params = [] := by
  simp only [registrationMethods, List.mem_cons, List.not_mem_nil, or_false] at hmethod
  cases params with
  | none => rcases hmethod with rfl | rfl <;> rfl
  | some j =>
      rcases hmethod with rfl | rfl
      · cases hlist : only? "registrations" Registration.ofJson? (some j) with
        | none => simp [entries, registrations, hlist]
        | some rs =>
            have hrs := (only?_eq_some_iff fun _ _ => Registration.ofJson?_eq_some_iff).mp hlist
            exact absurd (.register hrs) (h j _ rfl)
      · cases hlist : only? "unregisterations" Unregistration.ofJson? (some j) with
        | none => simp [entries, unregistrations, hlist]
        | some rs =>
            have hrs := (only?_eq_some_iff fun _ _ => Unregistration.ofJson?_eq_some_iff).mp hlist
            exact absurd (.unregister hrs) (h j _ rfl)

/-- The calls that entries lead to, with the positions of the features. -/
def callsFor (features : List Feature) (entries : List (String × Call)) : List (Nat × Call) :=
  entries.flatMap fun e => (takers features e.1).map (·, e.2)

theorem lt_of_mem_takers {features : List Feature} {method : String} {i : Nat}
    (h : i ∈ takers features method) : i < features.length := by
  obtain ⟨⟨f, j⟩, hmem, rfl⟩ := List.mem_map.mp h
  have hf : features[j]? = some f := List.mk_mem_zipIdx_iff_getElem?.mp (List.mem_filter.mp hmem).1
  exact (List.getElem?_eq_some_iff.mp hf).1

theorem lt_of_mem_callsFor {features : List Feature} {entries : List (String × Call)}
    {c : Nat × Call} (h : c ∈ callsFor features entries) : c.1 < features.length := by
  obtain ⟨e, -, he⟩ := List.mem_flatMap.mp h
  obtain ⟨i, hi, rfl⟩ := List.mem_map.mp he
  exact lt_of_mem_takers hi

theorem filter_map_pair (i : Nat) (call : Call) (names : List Nat) :
    ((names.map (·, call)).filter (·.1 = i)).map Prod.snd = List.replicate (names.count i) call := by
  rw [List.filter_map, List.map_map]
  simp [Function.comp_def, List.filter_eq]

theorem callsFor_filter {features : List Feature} {i : Nat} {f : Feature}
    (hf : features[i]? = some f) (entries : List (String × Call)) :
    ((callsFor features entries).filter (·.1 = i)).map Prod.snd =
      (entries.filter (f.registrationMethod = some ·.1)).map Prod.snd := by
  obtain ⟨hi, rfl⟩ := List.getElem?_eq_some_iff.mp hf
  induction entries with
  | nil => rfl
  | cons e entries ih =>
      have hhead : (((takers features e.1).map (·, e.2)).filter (·.1 = i)).map Prod.snd =
          if features[i].registrationMethod = some e.1 then [e.2] else [] := by
        rw [filter_map_pair, Client.count_takers features e.1 hi]
        split <;> rfl
      rw [callsFor, List.flatMap_cons, List.filter_append, List.map_append, hhead, ← callsFor, ih,
        List.filter_cons]
      by_cases he : features[i].registrationMethod = some e.1 <;> simp [he]

end Feature

namespace Client

theorem answer_of_registration (c : Client) {method : String}
    (hregistration : method ∈ Feature.registrationMethods) (params : Option Json) :
    c.answer method params = ((Feature.callsFor c.features (Feature.entries method params)).map
      fun (i, call) => .called i call, .result .null) := by
  simp only [Feature.registrationMethods, List.mem_cons, List.not_mem_nil, or_false] at hregistration
  rcases hregistration with rfl | rfl <;>
    simp [answer, Feature.entries, Feature.callsFor, callTakers, List.map_flatMap, List.flatMap_map,
      Function.comp_def]

theorem dispatch_of_registration (c : Client) {frame id : Json} {method : String}
    (hid : frame.get? "id" = some id) (hmethod : frame.get? "method" = some (.string method))
    (hregistration : method ∈ Feature.registrationMethods) :
    c.dispatch frame = (c, ((Feature.callsFor c.features
      (Feature.entries method (frame.get? "params"))).map fun (i, call) => .called i call) ++
        c.write (.reply id (.result .null))) := by
  have hframe : Rpc.Incoming.ofFrame? frame = some (.request id method (frame.get? "params")) := by
    simp [Rpc.Incoming.ofFrame?, hid, hmethod, Json.string?]
  simp only [dispatch, hframe, c.answer_of_registration hregistration]

/-- A request to register or to unregister that can be read as a whole leads to calls of each feature for the
entries with its method, in their order, and of no feature otherwise; one that cannot be read leads to no call.
In both cases the client stays as it is and acknowledges the request with its identifier and `null`. -/
theorem registrations_all_or_none (c : Client) {frame id : Json} {method : String}
    (hid : frame.get? "id" = some id) (hmethod : frame.get? "method" = some (.string method))
    (hregistration : method ∈ Feature.registrationMethods) :
    ∃ (calls : List (Nat × Feature.Call)) (acknowledgement : Message),
      c.dispatch frame = (c, (calls.map fun (i, call) => .called i call) ++ c.write acknowledgement) ∧
      acknowledgement.toJson =
        .ofFields [("jsonrpc", .string "2.0"), ("id", id), ("result", .null)] ∧
      (∀ call ∈ calls, call.1 < c.features.length) ∧
      (∀ j asked, frame.get? "params" = some j → Feature.Asks method j asked →
        ∀ (i : Nat) (f : Feature), c.features[i]? = some f →
          (calls.filter (·.1 = i)).map Prod.snd =
            (asked.filter (f.registrationMethod = some ·.1)).map Prod.snd) ∧
      ((∀ j asked, frame.get? "params" = some j → ¬ Feature.Asks method j asked) → calls = []) := by
  refine ⟨Feature.callsFor c.features (Feature.entries method (frame.get? "params")),
    .reply id (.result .null), c.dispatch_of_registration hid hmethod hregistration, rfl,
    fun call hcall => Feature.lt_of_mem_callsFor hcall, ?_, ?_⟩
  · intro j asked hparams hasks i f hf
    rw [hparams, Feature.entries_of_asks hasks]
    exact Feature.callsFor_filter hf asked
  · intro hnone
    rw [Feature.entries_of_not_asks hregistration hnone]
    rfl

def registering (entries : List Json) : Json :=
  .object [("id", .nat 7), ("method", .string "client/registerCapability"),
    ("params", .object [("registrations", .array entries)])]

def registration (id method : String) : Json :=
  .object [("id", .string id), ("method", .string method)]

def malformed (id : String) : Json :=
  .object [("id", .string id)]

theorem registrations_all_or_none_malformed :
    let c : Client := { options := {}, features := [{ registrationMethod := some "a" }, {}] }
    (∃ (calls : List (Nat × Feature.Call)) (acknowledgement : Message),
      c.dispatch (registering [registration "1" "a", registration "2" "b", registration "3" "a"]) =
        (c, (calls.map fun (i, call) => .called i call) ++ c.write acknowledgement) ∧
      (calls.filter (·.1 = 0)).map Prod.snd =
        [.register ⟨"1", "a", none⟩, .register ⟨"3", "a", none⟩]) ∧
    ∃ acknowledgement : Message, c.dispatch (registering [registration "1" "a", malformed "2"]) =
      (c, c.write acknowledgement) := by
  intro c
  have hentry (id method : String) :
      Feature.Registration.Denotes (registration id method) ⟨id, method, none⟩ :=
    ⟨none, Json.record?_eq_some_iff.mp rfl, rfl⟩
  have hmalformed (id : String) (r : Feature.Registration) :
      ¬ Feature.Registration.Denotes (malformed id) r := by
    rintro ⟨options, hrecord, -⟩
    cases Json.record?_eq_some_iff.mpr hrecord
  have hid (entries : List Json) : (registering entries).get? "id" = some (.nat 7) := rfl
  constructor
  · obtain ⟨calls, acknowledgement, hdispatch, -, -, hasked, -⟩ := c.registrations_all_or_none
      (hid [registration "1" "a", registration "2" "b", registration "3" "a"]) rfl List.mem_cons_self
    have hasks := Feature.Asks.register (j := .object [("registrations",
        .array [registration "1" "a", registration "2" "b", registration "3" "a"])])
      (.filled (Json.record?_eq_some_iff.mp rfl)
        (.cons (hentry "1" "a") (.cons (hentry "2" "b") (.cons (hentry "3" "a") .nil))))
    exact ⟨calls, acknowledgement, hdispatch, hasked _ _ rfl hasks 0 _ rfl⟩
  · obtain ⟨calls, acknowledgement, hdispatch, -, -, -, hnone⟩ := c.registrations_all_or_none
      (hid [registration "1" "a", malformed "2"]) rfl List.mem_cons_self
    refine ⟨acknowledgement, ?_⟩
    rw [hdispatch, hnone]
    · rfl
    · intro j asked hparams hasks
      cases hparams
      obtain ⟨rs, hlists⟩ := hasks.of_register
      cases hlists with
      | missing hrecord => cases Json.record?_eq_some_iff.mpr hrecord
      | filled hrecord hitems =>
          cases Json.record?_eq_some_iff.mpr hrecord
          obtain ⟨_, _, -, hsecond, -⟩ := List.forall₂_cons_left_iff.mp hitems
          obtain ⟨r, _, hr, -, -⟩ := List.forall₂_cons_left_iff.mp hsecond
          exact hmalformed "2" r hr

end Client

end ServerLink
