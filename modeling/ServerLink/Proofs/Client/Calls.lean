import ServerLink.Proofs.Client.Course

namespace ServerLink

namespace Feature

/-- The calls that every feature receives in the life of a client. -/
inductive Stage where
  | contribute
  | setUp
  | dispose
  deriving DecidableEq

def Call.stage? : Call → Option Stage
  | .contribute => some .contribute
  | .setUp .. => some .setUp
  | .dispose => some .dispose
  | _ => none

def Call.isRegistration : Call → Bool
  | .register _ => true
  | .unregister _ => true
  | _ => false

/-- Whether a call belongs to the life of a feature; a notification that it heeds does not. -/
def Call.isOfLife : Call → Bool
  | .heed .. => false
  | _ => true

/-- What a frame of the server asks a feature to register and to unregister. -/
def requestedBy (f : Feature) (frame : Json) : List Call :=
  match Rpc.Incoming.ofFrame? frame with
  | some (.request _ method params) =>
      if method = "client/registerCapability" then
        ((registrations params).filter (f.registrationMethod == some ·.method)).map .register
      else if method = "client/unregisterCapability" then
        ((unregistrations params).filter (f.registrationMethod == some ·.method)).map
          (.unregister ·.id)
      else []
  | _ => []

/-- The calls of a feature in the order of its life: it contributes, is set up, registers and unregisters, and
is disposed of. -/
def CallsInOrder (calls : List Call) : Prop :=
  ∃ capabilities selector registrations, (∀ call ∈ registrations, call.isRegistration = true) ∧
    calls <+: .contribute :: .setUp capabilities selector :: (registrations ++ [.dispose])

end Feature

namespace Client

def Act.callTo? (feature : Nat) : Act → Option Feature.Call
  | .called n call => if n = feature ∧ call.isOfLife = true then some call else none
  | _ => none

/-- The calls that a feature receives among acts, notifications left aside. -/
def callsTo (feature : Nat) (acts : List Act) : List Feature.Call :=
  acts.filterMap (Act.callTo? feature)

def stagesOf (feature : Nat) (acts : List Act) : List Feature.Stage :=
  (callsTo feature acts).filterMap Feature.Call.stage?

def registrationsOf (feature : Nat) (acts : List Act) : List Feature.Call :=
  (callsTo feature acts).filter Feature.Call.isRegistration

@[simp] theorem callsTo_nil (i : Nat) : callsTo i [] = [] := rfl

@[simp] theorem callsTo_append (i : Nat) (acts more : List Act) :
    callsTo i (acts ++ more) = callsTo i acts ++ callsTo i more :=
  List.filterMap_append

@[simp] theorem stagesOf_append (i : Nat) (acts more : List Act) :
    stagesOf i (acts ++ more) = stagesOf i acts ++ stagesOf i more := by
  simp [stagesOf]

@[simp] theorem registrationsOf_append (i : Nat) (acts more : List Act) :
    registrationsOf i (acts ++ more) = registrationsOf i acts ++ registrationsOf i more := by
  simp [registrationsOf]

theorem stagesOf_of_callsTo {i : Nat} {acts : List Act} (h : callsTo i acts = []) :
    stagesOf i acts = [] := by
  rw [stagesOf, h]
  rfl

theorem registrationsOf_of_callsTo {i : Nat} {acts : List Act} (h : callsTo i acts = []) :
    registrationsOf i acts = [] := by
  rw [registrationsOf, h]
  rfl

theorem callsTo_write (i : Nat) (c : Client) (m : Message) : callsTo i (c.write m) = [] := by
  unfold write
  split <;> rfl

theorem callsTo_report (c : Client) (i : Nat) (uri language : String) (deed : Document.Deed) :
    callsTo i (c.report uri language deed).2 = [] := by
  rw [acts_report]
  cases (c.documents.take uri language deed).2 with
  | none => rfl
  | some notice => exact callsTo_write i c _

theorem callsTo_map_called {call : Feature.Call} (hcall : call.isOfLife = true) (i : Nat)
    (names : List Nat) :
    callsTo i (names.map (.called · call)) = List.replicate (names.count i) call := by
  induction names with
  | nil => rfl
  | cons n names ih =>
      have hhead : callsTo i [.called n call] = if n = i then [call] else [] := by
        by_cases hn : n = i <;> simp [callsTo, Act.callTo?, hn, hcall]
      rw [List.map_cons, ← List.singleton_append, callsTo_append, hhead, ih, List.count_cons]
      by_cases hn : n = i <;> simp [hn, List.replicate_succ]

theorem callsTo_callAll {c : Client} {i : Nat} (hi : i < c.features.length) (call : Feature.Call)
    (hcall : call.isOfLife = true) : callsTo i (Handshake.callAll c call) = [call] := by
  rw [Handshake.callAll, callsTo_map_called hcall, List.count_range, if_pos hi]
  rfl

theorem callsTo_disposals {features : List Feature} {i : Nat} (hi : i < features.length) :
    callsTo i (disposals features) = [.dispose] := by
  rw [disposals, callsTo_map_called rfl, List.count_range, if_pos hi]
  rfl

theorem count_takers (features : List Feature) (method : String) {i : Nat}
    (hi : i < features.length) : (Feature.takers features method).count i =
      if features[i].registrationMethod = some method then 1 else 0 := by
  have hnodup : (Feature.takers features method).Nodup := by
    have hall : (features.zipIdx.map Prod.snd).Nodup := by
      rw [List.zipIdx_map_snd]
      exact List.nodup_range'
    exact hall.sublist (List.filter_sublist.map _)
  have hmem : i ∈ Feature.takers features method ↔
      features[i].registrationMethod = some method := by
    simp [Feature.takers, List.mk_mem_zipIdx_iff_getElem?, hi]
  rw [hnodup.count]
  simp only [hmem]

theorem callsTo_callTakers {c : Client} {i : Nat} (hi : i < c.features.length) (method : String)
    {call : Feature.Call} (hcall : call.isOfLife = true) :
    callsTo i (c.callTakers method call) =
      if c.features[i].registrationMethod = some method then [call] else [] := by
  rw [callTakers, callsTo_map_called hcall, count_takers c.features method hi]
  split <;> rfl

theorem callsTo_flatMap_callTakers {α : Type} {c : Client} {i : Nat} (hi : i < c.features.length)
    (as : List α) (method : α → String) (call : α → Feature.Call)
    (hcall : ∀ a, (call a).isOfLife = true) :
    callsTo i (as.flatMap fun a => c.callTakers (method a) (call a)) =
      (as.filter fun a => c.features[i].registrationMethod == some (method a)).map call := by
  induction as with
  | nil => rfl
  | cons a as ih =>
      rw [List.flatMap_cons, callsTo_append, ih, callsTo_callTakers hi _ (hcall a), List.filter_cons]
      by_cases ha : c.features[i].registrationMethod = some (method a) <;> simp [ha]

theorem callsTo_heed (i : Nat) (c : Client) (method : String) (params : Option Json) :
    callsTo i (c.heed method params) = [] := by
  refine List.filterMap_eq_nil_iff.mpr ?_
  unfold heed
  intro act hact
  split at hact
  · obtain ⟨html, -, rfl⟩ := Option.map_eq_some_iff.mp (Option.mem_toList.mp hact)
    rfl
  · obtain rfl := List.mem_singleton.mp hact
    simp [Act.callTo?, Feature.Call.isOfLife]
  · obtain ⟨line, -, rfl⟩ := Option.map_eq_some_iff.mp (Option.mem_toList.mp hact)
    rfl

/-- A feature is called to register what a frame asks it to, and for nothing else. -/
theorem callsTo_dispatch {c : Client} {i : Nat} (hi : i < c.features.length) (frame : Json) :
    callsTo i (c.dispatch frame).2 = Feature.requestedBy c.features[i] frame := by
  unfold dispatch Feature.requestedBy
  split
  · rename_i hframe
    simp [hframe]
  · rename_i hframe
    simp [hframe]
  · rename_i id method params hframe
    simp only [hframe, callsTo_append, callsTo_write, List.append_nil, answer]
    split
    · exact callsTo_flatMap_callTakers hi _ Feature.Registration.method .register fun _ => rfl
    · split
      · exact callsTo_flatMap_callTakers hi _ Feature.Unregistration.method
          (fun r => .unregister r.id) fun _ => rfl
      · split <;> rfl
  · rename_i method params hframe
    simp [hframe, callsTo_heed]

theorem isRegistration_of_mem_requestedBy {f : Feature} {frame : Json} {call : Feature.Call}
    (h : call ∈ f.requestedBy frame) : call.isRegistration = true := by
  unfold Feature.requestedBy at h
  split at h
  · split at h
    · obtain ⟨r, -, rfl⟩ := List.mem_map.mp h
      rfl
    · split at h
      · obtain ⟨r, -, rfl⟩ := List.mem_map.mp h
        rfl
      · cases h
  · cases h

theorem Served.registrationsOf {c d : Client} {frames : List Json} {acts : List Act}
    (hserved : c.Served frames acts d) {i : Nat} (hi : i < c.features.length) :
    registrationsOf i acts = frames.flatMap c.features[i].requestedBy := by
  cases hserved with
  | took frame =>
      rw [Client.registrationsOf, callsTo_dispatch hi]
      simpa using fun call => isRegistration_of_mem_requestedBy
  | _ => rfl

theorem stage?_of_isRegistration {call : Feature.Call} (h : call.isRegistration = true) :
    call.stage? = none := by
  cases call <;> first | rfl | cases h

theorem Served.stagesOf {c d : Client} {frames : List Json} {acts : List Act}
    (hserved : c.Served frames acts d) {i : Nat} (hi : i < c.features.length) :
    stagesOf i acts = [] := by
  cases hserved with
  | took frame =>
      rw [Client.stagesOf, callsTo_dispatch hi]
      exact List.filterMap_eq_nil_iff.mpr fun call hcall =>
        stage?_of_isRegistration (isRegistration_of_mem_requestedBy hcall)
  | _ => rfl

namespace Handshake

/-- The stages through which every feature has been led before a step. -/
def stages : Handshake → List Feature.Stage
  | .prepare => []
  | .conclude => [.contribute, .setUp]
  | _ => [.contribute]

theorem callsTo_step {c d : Client} {next next' : Handshake} {acts : List Act}
    (hstep : next.step c = (.next d next', acts)) {i : Nat} (hi : i < c.features.length) :
    next'.stages = next.stages ++ stagesOf i acts ∧ registrationsOf i acts = [] := by
  cases next <;> simp only [Handshake.step] at hstep
  case prepare =>
    split at hstep <;> cases hstep
    have hcalls := callsTo_callAll hi .contribute rfl
    exact ⟨by rw [stagesOf, hcalls]; rfl, by rw [registrationsOf, hcalls]; rfl⟩
  case enter =>
    cases hstep
    exact ⟨rfl, rfl⟩
  case settle answer =>
    split at hstep <;> cases hstep
    have hcalls := callsTo_callAll hi (.setUp (announced answer) c.options.selector.toJson) rfl
    exact ⟨by rw [stagesOf, hcalls]; rfl, by rw [registrationsOf, hcalls]; rfl⟩
  case conclude => split at hstep <;> cases hstep
  all_goals
    split at hstep <;> cases hstep
    exact ⟨rfl, rfl⟩

end Handshake

namespace Farewell

def stages : Farewell → List Feature.Stage
  | .dispose => [.contribute, .setUp]
  | _ => [.contribute, .setUp, .dispose]

theorem callsTo_step {c d : Client} {next next' : Farewell} {acts : List Act}
    (hstep : next.step c = (.next d next', acts)) {i : Nat} (hi : i < c.features.length) :
    next'.stages = next.stages ++ stagesOf i acts ∧ registrationsOf i acts = [] := by
  cases next <;> simp only [Farewell.step] at hstep
  case dispose =>
    cases hstep
    have hcalls := callsTo_disposals hi
    rw [disposals] at hcalls
    simp [stages, stagesOf, registrationsOf, hcalls, Feature.Call.stage?,
      Feature.Call.isRegistration]
  case check =>
    cases hstep
    split <;> exact ⟨rfl, rfl⟩
  case write => split at hstep <;> cases hstep <;> exact ⟨rfl, rfl⟩
  case await =>
    split at hstep <;> cases hstep
    · split <;> exact ⟨rfl, rfl⟩
    · exact ⟨rfl, rfl⟩
  case exit =>
    cases hstep
    have hcalls := callsTo_write i c .exit
    exact ⟨by simp [stages, stagesOf_of_callsTo hcalls], registrationsOf_of_callsTo hcalls⟩
  case hangUp => cases hstep
  all_goals
    cases hstep
    exact ⟨rfl, rfl⟩

end Farewell

theorem hungUp_not_mem_of_stays {acts : List Act} (hstays : ∀ act ∈ acts, act.isParting = false) :
    .hungUp ∉ acts :=
  fun hmem => nomatch hstays _ hmem

theorem hungUp_not_mem_called (names : List Nat) (call : Feature.Call) :
    .hungUp ∉ names.map (Act.called · call) := by
  intro hmem
  obtain ⟨n, -, hn⟩ := List.mem_map.mp hmem
  cases hn

theorem introduced_mem_said {acts : List Act} (hmem : .wrote .introduced ∈ acts) :
    .introduced ∈ said acts :=
  List.mem_filterMap.mpr ⟨_, hmem, rfl⟩

theorem Handshake.goesOn_step {c d : Client} {next next' : Handshake} {acts : List Act}
    (hstep : next.step c = (.next d next', acts)) :
    .hungUp ∉ acts ∧ .wrote .introduced ∉ acts := by
  constructor
  · cases next <;> simp only [Handshake.step] at hstep
    case prepare =>
      split at hstep <;> cases hstep
      exact hungUp_not_mem_called _ _
    case enter =>
      cases hstep
      exact List.not_mem_nil
    case settle =>
      split at hstep <;> cases hstep
      exact hungUp_not_mem_called _ _
    case conclude => split at hstep <;> cases hstep
    all_goals
      split at hstep <;> cases hstep
      simp
  · intro hmem
    have hsaid := introduced_mem_said hmem
    rcases Handshake.said_step hstep with h | ⟨id, offer, h⟩ <;> simp [h] at hsaid

theorem Farewell.goesOn_step {c d : Client} {next next' : Farewell} {acts : List Act}
    (hstep : next.step c = (.next d next', acts)) : .hungUp ∉ acts := by
  cases next <;> simp only [Farewell.step] at hstep
  case dispose =>
    cases hstep
    exact hungUp_not_mem_called _ _
  case write => split at hstep <;> cases hstep <;> simp
  case await => split at hstep <;> cases hstep <;> exact List.not_mem_nil
  case exit =>
    cases hstep
    unfold Client.write
    split <;> simp
  case hangUp => cases hstep
  all_goals
    cases hstep
    exact List.not_mem_nil

theorem Farewell.features_step {c d : Client} {next next' : Farewell} {acts : List Act}
    (hstep : next.step c = (.next d next', acts)) : d.features = c.features := by
  cases next <;> simp only [Farewell.step] at hstep
  case write => split at hstep <;> cases hstep <;> rfl
  case await => split at hstep <;> cases hstep <;> rfl
  case hangUp => cases hstep
  all_goals
    cases hstep
    rfl

theorem Farewell.expire_eq {c d : Client} {next next' : Farewell}
    (hexpire : next.expire c = some (d, next')) :
    d.features = c.features ∧ next'.stages = next.stages := by
  unfold Farewell.expire at hexpire
  split at hexpire
  · split at hexpire <;> cases hexpire
    exact ⟨rfl, rfl⟩
  · cases hexpire

theorem Handshake.stages_prefix (next : Handshake) :
    next.stages <+: [.contribute, .setUp, .dispose] := by
  cases next <;> simp [Handshake.stages]

theorem Farewell.stages_prefix (next : Farewell) :
    next.stages <+: [.contribute, .setUp, .dispose] := by
  cases next <;> simp [Farewell.stages]

end Client

end ServerLink
