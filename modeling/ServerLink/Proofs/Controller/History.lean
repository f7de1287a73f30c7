import ServerLink.Controller.Step

namespace ServerLink.Controller

inductive Note where
  | did (act : Act)
  /-- The target of an attempt was reached: from then on there is a connection. -/
  | connected (attempt : Nat)
  /-- The client of an attempt took a value off its stream. -/
  | heard (attempt : Nat) (frame : Json)
  /-- The editor reported on a document while the client of an attempt was active. -/
  | reported (attempt : Nat) (event : Document.Event)

/-- Whether the client of an attempt is held and reads its stream. -/
def hears (s : Controller) (attempt : Nat) : Bool :=
  attempt == s.attempts && s.phase.client?.any (·.inflow == .running)

/-- What is noted of an input, apart from what the controller does upon it. -/
def noted (s : Controller) : Input → List Note
  | .arrive attempt (.frame frame) =>
      if s.hears attempt then [.heard attempt frame] else []
  | .reached .established =>
      match s.phase with
      | .connecting .. => [.connected s.attempts]
      | _ => []
  | .perform (.handle (.document event)) =>
      if s.active?.isSome then [.reported s.attempts event] else []
  | _ => []

def notes (s : Controller) (e : Editor) (i : Input) : List Note :=
  s.noted i ++ (s.step e i).2.map .did

def history (s : Controller) : List (Editor × Input) → List Note
  | [] => []
  | (e, i) :: inputs => s.notes e i ++ (s.step e i).1.history inputs

def Note.act? : Note → Option Act
  | .did act => some act
  | _ => none

def Note.clientAct? (attempt : Nat) : Note → Option Client.Act
  | .did (.client n act) => if n = attempt then some act else none
  | _ => none

/-- What the client of an attempt does. -/
def clientActs (attempt : Nat) (h : List Note) : List Client.Act :=
  h.filterMap (Note.clientAct? attempt)

/-- What the client of an attempt took off its stream. -/
def heardBy (attempt : Nat) (h : List Note) : List Json :=
  h.filterMap fun
    | .heard n frame => if n = attempt then some frame else none
    | _ => none

/-- What the editor reported while the client of an attempt was active. -/
def reportedTo (attempt : Nat) (h : List Note) : List Document.Event :=
  h.filterMap fun
    | .reported n event => if n = attempt then some event else none
    | _ => none

def clientNotes (attempt : Nat) (acts : List Client.Act) : List Note :=
  acts.map fun act => .did (.client attempt act)

/-- Whether every note fits those ahead of it. -/
def Throughout (fits : List Note → Note → Prop) (h : List Note) : Prop :=
  ∀ before note after, h = before ++ note :: after → fits before note

theorem run_append (s : Controller) (before after : List (Editor × Input)) :
    s.run (before ++ after) =
      (((s.run before).1.run after).1, (s.run before).2 ++ ((s.run before).1.run after).2) := by
  induction before generalizing s with
  | nil => simp [run]
  | cons input before ih =>
      obtain ⟨e, i⟩ := input
      simp [run, ih, List.append_assoc]

theorem history_append (s : Controller) (before after : List (Editor × Input)) :
    s.history (before ++ after) = s.history before ++ (s.run before).1.history after := by
  induction before generalizing s with
  | nil => simp [history, run]
  | cons input before ih =>
      obtain ⟨e, i⟩ := input
      simp [history, run, ih, List.append_assoc]

theorem acts_noted (s : Controller) (i : Input) : (s.noted i).filterMap Note.act? = [] := by
  unfold noted
  split
  · split <;> rfl
  · split <;> rfl
  · split <;> rfl
  · rfl

theorem acts_history (s : Controller) (inputs : List (Editor × Input)) :
    (s.history inputs).filterMap Note.act? = (s.run inputs).2 := by
  induction inputs generalizing s with
  | nil => rfl
  | cons input inputs ih =>
      obtain ⟨e, i⟩ := input
      have hacts (acts : List Act) : (acts.map Note.did).filterMap Note.act? = acts := by
        simp [List.filterMap_map, Function.comp_def, Note.act?]
      simp [history, notes, run, List.filterMap_append, acts_noted, hacts, ih]

@[simp] theorem clientActs_nil (attempt : Nat) : clientActs attempt [] = [] := rfl

@[simp] theorem clientActs_append (attempt : Nat) (h new : List Note) :
    clientActs attempt (h ++ new) = clientActs attempt h ++ clientActs attempt new :=
  List.filterMap_append

@[simp] theorem heardBy_append (attempt : Nat) (h new : List Note) :
    heardBy attempt (h ++ new) = heardBy attempt h ++ heardBy attempt new :=
  List.filterMap_append

@[simp] theorem clientActs_reported (attempt other : Nat) (event : Document.Event) (h : List Note) :
    clientActs attempt (.reported other event :: h) = clientActs attempt h := rfl

@[simp] theorem heardBy_reported (attempt other : Nat) (event : Document.Event) (h : List Note) :
    heardBy attempt (.reported other event :: h) = heardBy attempt h := rfl

@[simp] theorem heardBy_clientNotes (attempt other : Nat) (acts : List Client.Act) :
    heardBy attempt (clientNotes other acts) = [] := by
  simp [heardBy, clientNotes, List.filterMap_map]

@[simp] theorem heardBy_heard (attempt : Nat) (frames : List Json) :
    heardBy attempt (frames.map (.heard attempt)) = frames := by
  induction frames with
  | nil => rfl
  | cons frame frames ih =>
      have hframe : heardBy attempt [.heard attempt frame] = [frame] := by simp [heardBy]
      calc heardBy attempt ([.heard attempt frame] ++ frames.map (.heard attempt))
          = heardBy attempt [.heard attempt frame] ++ heardBy attempt (frames.map (.heard attempt)) :=
            heardBy_append ..
        _ = frame :: frames := by rw [hframe, ih, List.singleton_append]

@[simp] theorem clientActs_heard (attempt other : Nat) (frames : List Json) :
    clientActs attempt (frames.map (.heard other)) = [] := by
  simp [clientActs, Note.clientAct?, List.filterMap_map, Function.comp_def]

@[simp] theorem clientActs_clientNotes (attempt : Nat) (acts : List Client.Act) :
    clientActs attempt (clientNotes attempt acts) = acts := by
  induction acts with
  | nil => rfl
  | cons act acts ih =>
      change clientActs attempt (.did (.client attempt act) :: clientNotes attempt acts) = _
      simpa [clientActs, Note.clientAct?] using ih

theorem mem_clientActs {k : Nat} {h : List Note} {act : Client.Act} :
    act ∈ clientActs k h ↔ .did (.client k act) ∈ h := by
  constructor
  · intro hact
    obtain ⟨note, hnote, hsome⟩ := List.mem_filterMap.mp hact
    unfold Note.clientAct? at hsome
    split at hsome
    · split at hsome
      · rename_i hk
        cases hsome
        exact hk ▸ hnote
      · cases hsome
    · cases hsome
  · exact fun hnote => List.mem_filterMap.mpr ⟨_, hnote, if_pos rfl⟩

theorem clientActs_clientNotes_of_ne {attempt other : Nat} (hne : other ≠ attempt)
    (acts : List Client.Act) : clientActs attempt (clientNotes other acts) = [] := by
  simp [clientActs, clientNotes, Note.clientAct?, List.filterMap_map, Function.comp_def, hne]

@[simp] theorem reportedTo_reported (attempt : Nat) (event : Document.Event) (h : List Note) :
    reportedTo attempt (.reported attempt event :: h) = event :: reportedTo attempt h := by
  simp [reportedTo]

theorem reportedTo_reported_of_ne {attempt other : Nat} (hne : other ≠ attempt)
    (event : Document.Event) (h : List Note) :
    reportedTo attempt (.reported other event :: h) = reportedTo attempt h := by
  simp [reportedTo, hne]

@[simp] theorem reportedTo_append (attempt : Nat) (h new : List Note) :
    reportedTo attempt (h ++ new) = reportedTo attempt h ++ reportedTo attempt new :=
  List.filterMap_append

@[simp] theorem reportedTo_did (attempt : Nat) (act : Act) (h : List Note) :
    reportedTo attempt (.did act :: h) = reportedTo attempt h := rfl

@[simp] theorem reportedTo_connected (attempt other : Nat) (h : List Note) :
    reportedTo attempt (.connected other :: h) = reportedTo attempt h := rfl

@[simp] theorem reportedTo_nil (attempt : Nat) : reportedTo attempt [] = [] := rfl

@[simp] theorem reportedTo_clientNotes (attempt other : Nat) (acts : List Client.Act) :
    reportedTo attempt (clientNotes other acts) = [] := by
  simp [reportedTo, clientNotes, List.filterMap_map]

@[simp] theorem reportedTo_heard (attempt other : Nat) (frames : List Json) :
    reportedTo attempt (frames.map (.heard other)) = [] := by
  simp [reportedTo, List.filterMap_map]

theorem throughout_nil (fits : List Note → Note → Prop) : Throughout fits [] := by
  intro before note after hh
  simp at hh

theorem Throughout.append {fits : List Note → Note → Prop} {h new : List Note}
    (hh : Throughout fits h)
    (hnew : Throughout (fun before note => fits (h ++ before) note) new) :
    Throughout fits (h ++ new) := by
  intro before note after hsplit
  rcases List.append_eq_append_iff.mp hsplit with ⟨middle, rfl, hmiddle⟩ | ⟨middle, hmiddle, hafter⟩
  · exact hnew middle note after hmiddle
  · cases middle with
    | nil =>
        obtain rfl : h = before := by simpa using hmiddle
        simpa using hnew [] note after hafter.symm
    | cons first middle =>
        obtain ⟨rfl, -⟩ := List.cons.inj hafter
        exact hh before note middle hmiddle

end ServerLink.Controller
