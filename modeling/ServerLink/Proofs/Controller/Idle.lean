import ServerLink.Proofs.Controller.Loop

/-!
Events of which nothing comes. A run with such events in it is, in all that the controller does and keeps,
the run without them, whether they are put to the controller at once or wait in the channel.
-/

namespace ServerLink.Controller

/-- Nothing is to come of an event. -/
inductive Idle (s : Controller) : Event → Prop
  | foreign {event : Document.Event}
      (h : String.ofList event.url.scheme ≠ "file" ∨ event.language ≠ Product.language) :
      Idle s (.document event)
  | unwatched {changes : List Document.FileChange}
      (h : ∀ change ∈ changes, ¬(change.path.isAbsolute = true ∧ Document.isWatched change.path = true)) :
      Idle s (.filesChanged changes)
  | unserved {event : Document.Event} (h : s.active? = none) : Idle s (.document event)
  | unserved_files {changes : List Document.FileChange} (h : s.active? = none) :
      Idle s (.filesChanged changes)
  | unopened {event : Document.Event} {c : Client} (h : s.active? = some c)
      (hunopened : c.documents.version? event.url.text = none)
      (hdeed : event.deed = .saved ∨ event.deed = .closed) : Idle s (.document event)
  | connected (h : ∀ c, s.active? = some c → c.isConnected = true) : Idle s .connectionLost
  | overtaken {prompt : Nat} (h : s.outstanding ≠ some prompt) : Idle s (.chosen prompt .reconnect)

variable {s : Controller} {event : Event}

theorem reportDocument_of_unserved {e : Document.Event} (h : s.active? = none) :
    s.reportDocument e = (s, []) := by
  unfold reportDocument
  split
  · rename_i hphase
    simp [active?, hphase] at h
  · rfl

theorem reportDocument_of_foreign {e : Document.Event}
    (h : String.ofList e.url.scheme ≠ "file" ∨ e.language ≠ Product.language) :
    s.reportDocument e = (s, []) := by
  have huncovered : selector.covers e.url e.language = false := by
    rw [Document.Selector.covers, Bool.and_eq_false_iff, beq_eq_false_iff_ne, beq_eq_false_iff_ne]
    exact h
  unfold reportDocument
  split
  · rw [huncovered]
    rfl
  · rfl

theorem report_of_unopened {c : Client} {uri : String} (language : String) {deed : Document.Deed}
    (h : c.documents.version? uri = none) (hdeed : deed = .saved ∨ deed = .closed) :
    c.report uri language deed = (c, []) := by
  rcases hdeed with rfl | rfl
  · simp [Client.report, Document.Opened.take, Document.Opened.saves, h]
  · simp [Client.report, Document.Opened.take, Document.Opened.closes, h]

theorem reportDocument_of_unopened {e : Document.Event} {c : Client} (h : s.active? = some c)
    (hunopened : c.documents.version? e.url.text = none) (hdeed : e.deed = .saved ∨ e.deed = .closed) :
    s.reportDocument e = (s, []) := by
  obtain ⟨phase, attempts, nextPrompt, outstanding⟩ := s
  unfold active? at h
  split at h
  · rename_i hphase
    cases h
    dsimp only at hphase
    subst hphase
    unfold reportDocument
    dsimp only
    rw [report_of_unopened e.language hunopened hdeed]
    split <;> rfl
  · cases h

theorem reportable_of_unwatched {changes : List Document.FileChange}
    (h : ∀ change ∈ changes, ¬(change.path.isAbsolute = true ∧ Document.isWatched change.path = true)) :
    Document.reportable changes = [] := by
  apply List.filterMap_eq_nil_iff.mpr
  intro change hchange
  obtain ⟨hmem, hwatched⟩ := List.mem_filter.mp hchange
  have hrelative : change.path.isAbsolute ≠ true := fun habsolute => h change hmem ⟨habsolute, hwatched⟩
  simp [Path.fileUri?, Path.fileUrl?, hrelative]

theorem Idle.handle (h : s.Idle event) (e : Editor) : s.handle e event = (s, []) := by
  cases h with
  | foreign h => exact reportDocument_of_foreign h
  | unwatched h =>
      rw [Controller.handle, reportFiles, reportable_of_unwatched h]
      split <;> trivial
  | unserved h => exact reportDocument_of_unserved h
  | unserved_files h =>
      rw [Controller.handle, reportFiles, h]
  | unopened h hunopened hdeed => exact reportDocument_of_unopened h hunopened hdeed
  | connected h => exact Loop.noticeLoss_of_connected h
  | overtaken h => exact retry_of_ne e h

theorem Idle.step (h : s.Idle event) (e : Editor) :
    s.step e (.perform (.handle event)) = (s, []) := by
  rw [Controller.step]
  split
  · exact h.handle e
  · rfl

theorem Idle.continues (h : s.Idle event) : event.continues = true := by
  cases h <;> rfl

theorem run_of_idle {before after : List (Editor × Input)} (e : Editor)
    (h : (s.run before).1.Idle event) :
    s.run (before ++ (e, .perform (.handle event)) :: after) = s.run (before ++ after) := by
  rw [run_append, run_append]
  simp only [run, h.step e, List.nil_append]

namespace Loop

/-- The same happened to two loops, apart from the events that wait. -/
structure Alike (l m : Loop) : Prop where
  controller : l.controller = m.controller
  isClosed : l.isClosed = m.isClosed
  isRunning : l.isRunning = m.isRunning

/-- A run with more events than another one. An event is put into the channel, and when its turn comes it is
idle; all other events are taken in both runs. -/
inductive Padded : Loop → Loop → List (Editor × Input) → List (Editor × Input) → Prop
  | nil {l m : Loop} : Padded l m [] []
  | both {l m : Loop} {more less : List (Editor × Input)} (e : Editor) (i : Input)
      (hnext : i = .take → l.isRunning = true → l.controller.isReady = true →
        l.queue.head? = m.queue.head?)
      (h : Padded (l.step e i).1 (m.step e i).1 more less) : Padded l m ((e, i) :: more) ((e, i) :: less)
  | sent {l m : Loop} {more less : List (Editor × Input)} (e : Editor) (event : Event)
      (h : Padded (l.send event) m more less) : Padded l m ((e, .send event) :: more) less
  | taken {l m : Loop} {more less : List (Editor × Input)} (e : Editor) {event : Event}
      {queue : List Event} (hqueue : l.queue = event :: queue) (hidle : l.controller.Idle event)
      (hrunning : l.isRunning = true) (hready : l.controller.isReady = true)
      (h : Padded { l with queue } m more less) : Padded l m ((e, .take) :: more) less

variable {l m : Loop}

theorem Padded.behind (before : List (Editor × Input)) {more less : List (Editor × Input)}
    (h : (l.run before).1.Padded (l.run before).1 more less) :
    l.Padded l (before ++ more) (before ++ less) := by
  induction before generalizing l with
  | nil => exact h
  | cons input before ih => exact .both input.1 input.2 (fun _ _ _ => rfl) (ih h)

theorem Padded.beside {between : List (Editor × Input)} (hbetween : ∀ input ∈ between, input.2 ≠ .take)
    {more less : List (Editor × Input)} (h : (l.run between).1.Padded (m.run between).1 more less) :
    l.Padded m (between ++ more) (between ++ less) := by
  induction between generalizing l m with
  | nil => exact h
  | cons input between ih =>
      obtain ⟨hinput, hbetween⟩ := List.forall_mem_cons.mp hbetween
      exact .both input.1 input.2 (fun htake => absurd htake hinput) (ih hbetween h)

theorem alike_send (l : Loop) (event : Event) : (l.send event).Alike l := by
  unfold send
  split
  · exact ⟨rfl, rfl, rfl⟩
  · exact ⟨rfl, rfl, rfl⟩

namespace Alike

theorem trans {n : Loop} (h : l.Alike m) (h' : m.Alike n) : l.Alike n :=
  ⟨h.controller.trans h'.controller, h.isClosed.trans h'.isClosed, h.isRunning.trans h'.isRunning⟩

theorem symm (h : l.Alike m) : m.Alike l :=
  ⟨h.controller.symm, h.isClosed.symm, h.isRunning.symm⟩

theorem take (h : l.Alike m)
    (hnext : l.isRunning = true → l.controller.isReady = true → l.queue.head? = m.queue.head?) :
    l.take.1.Alike m.take.1 ∧ l.take.2 = m.take.2 := by
  obtain ⟨controller, queue, isClosed, isRunning⟩ := l
  obtain ⟨_, queue', _, _⟩ := m
  obtain ⟨rfl, rfl, rfl⟩ := h
  dsimp only at hnext
  unfold Loop.take
  dsimp only
  by_cases hable : (isRunning && controller.isReady) = true
  · obtain ⟨hrunning, hready⟩ := Bool.and_eq_true_iff.mp hable
    have hhead := hnext hrunning hready
    rw [if_pos hable, if_pos hable]
    cases queue with
    | nil =>
        obtain rfl : queue' = [] := List.head?_eq_none_iff.mp hhead.symm
        exact ⟨⟨rfl, rfl, rfl⟩, rfl⟩
    | cons event queue =>
        obtain ⟨rest, rfl⟩ : ∃ rest, queue' = event :: rest :=
          List.head?_eq_some_iff.mp hhead.symm
        dsimp only
        split
        · exact ⟨⟨rfl, rfl, rfl⟩, rfl⟩
        · exact ⟨⟨rfl, rfl, rfl⟩, rfl⟩
  · rw [if_neg hable, if_neg hable]
    exact ⟨⟨rfl, rfl, rfl⟩, rfl⟩

theorem lead (h : l.Alike m) {i : Input}
    (hnext : i = .take → l.isRunning = true → l.controller.isReady = true →
      l.queue.head? = m.queue.head?) :
    (l.lead i).1.Alike (m.lead i).1 ∧ (l.lead i).2 = (m.lead i).2 := by
  cases i with
  | send event => exact ⟨(alike_send l event).trans (h.trans (alike_send m event).symm), rfl⟩
  | close => exact ⟨⟨h.controller, rfl, h.isRunning⟩, rfl⟩
  | take =>
      obtain ⟨halike, hop⟩ := h.take (hnext rfl)
      exact ⟨halike, congrArg (Option.map Controller.Input.perform) hop⟩
  | noticeLoss => exact ⟨h, by rw [Loop.lead, Loop.lead, h.isRunning]⟩
  | control i => exact ⟨h, rfl⟩

theorem step (h : l.Alike m) (e : Editor) {i : Input}
    (hnext : i = .take → l.isRunning = true → l.controller.isReady = true →
      l.queue.head? = m.queue.head?) :
    (l.step e i).1.Alike (m.step e i).1 ∧ (l.step e i).2 = (m.step e i).2 := by
  obtain ⟨halike, hop⟩ := h.lead hnext
  unfold Loop.step
  rcases hl : l.lead i with ⟨l', op⟩
  rcases hm : m.lead i with ⟨m', op'⟩
  rw [hl, hm] at halike hop
  obtain rfl : op = op' := hop
  cases op with
  | none => exact ⟨halike, rfl⟩
  | some j =>
      dsimp only
      rw [halike.controller]
      exact ⟨⟨rfl, halike.isClosed, halike.isRunning⟩, rfl⟩

end Alike

theorem step_take_of_idle (e : Editor) {event : Event} {queue : List Event}
    (hqueue : l.queue = event :: queue) (hidle : l.controller.Idle event) (hrunning : l.isRunning = true)
    (hready : l.controller.isReady = true) : l.step e .take = ({ l with queue }, []) := by
  have htake : l.lead .take = ({ l with queue }, some (.perform (.handle event))) := by
    simp [lead, take, hrunning, hready, hqueue, hidle.continues]
  unfold step
  rw [htake]
  dsimp only
  rw [hidle.step e]

/-- Runs of which one has more events come to the same. -/
theorem Padded.run {more less : List (Editor × Input)} (h : l.Padded m more less) (halike : l.Alike m) :
    (l.run more).1.Alike (m.run less).1 ∧ (l.run more).2 = (m.run less).2 := by
  induction h with
  | nil => exact ⟨halike, rfl⟩
  | both e i hnext _ ih =>
      obtain ⟨hstep, hacts⟩ := halike.step e hnext
      obtain ⟨hlast, hmore⟩ := ih hstep
      exact ⟨hlast, congrArg₂ _ hacts hmore⟩
  | sent e event _ ih => exact ih ((alike_send _ event).trans halike)
  | taken e hqueue hidle hrunning hready _ ih =>
      obtain ⟨hlast, hmore⟩ := ih ⟨halike.controller, halike.isClosed, halike.isRunning⟩
      simp only [Loop.run, step_take_of_idle e hqueue hidle hrunning hready, List.nil_append]
      exact ⟨hlast, hmore⟩

end Loop

/-- Events of which nothing is to come leave no trace. A run of the controller into which one is put, or from
which one is taken away, has the same end and the same acts. So has a run of the loop in whose channel any
number of them wait among other events, each idle when its turn comes. -/
theorem idle_events_leave_no_trace :
    (∀ (s : Controller) (before after : List (Editor × Input)) (e : Editor) (event : Event),
      (s.run before).1.Idle event →
      s.run (before ++ (e, .perform (.handle event)) :: after) = s.run (before ++ after)) ∧
    ∀ (l : Loop) (more less : List (Editor × Loop.Input)), l.Padded l more less →
      (l.run more).1.Alike (l.run less).1 ∧ (l.run more).2 = (l.run less).2 := by
  constructor
  · intro s before after e event hidle
    exact run_of_idle e hidle
  · intro l more less hpadded
    exact hpadded.run ⟨rfl, rfl, rfl⟩

def savedUnopened : Event :=
  .document ⟨⟨"file".toList, some ⟨[], [], none⟩, "/b.jimple".toList, none, none⟩, Product.language, .saved⟩

/-- What happens to a controller that begins to start a client until the client is active. -/
def startup : List Input :=
  let answer : Json := .ofFields [("id", .nat 1), ("result", .null)]
  [.reached .established, .proceed, .proceed, .proceed, .arrive 1 (.frame answer), .proceed, .proceed,
    .proceed]

/-- A document that is not open is saved while the client is active, or before it is. -/
theorem idle_events_leave_no_trace_saved :
    let e : Editor := ⟨{}, ⟨[]⟩, none, 0⟩
    let l := (Loop.begin e).1
    (l.controller.run (startup.map (e, ·))).1.active?.isSome = true ∧
    l.controller.run (startup.map (e, ·) ++ [(e, .perform (.handle savedUnopened)), (e, .proceed)]) =
      l.controller.run (startup.map (e, ·) ++ [(e, .proceed)]) ∧
    (l.run ((e, .send .settingsChanged) :: (e, .send savedUnopened) ::
        (startup.map (e, .control ·) ++ [(e, .send .shutdown), (e, .take)]))).2 =
      (l.run ((e, .send .settingsChanged) :: (startup.map (e, .control ·) ++
        [(e, .send .shutdown), (e, .take)]))).2 ∧
    (l.run ((e, .send savedUnopened) :: (e, .send .settingsChanged) ::
        (startup.map (e, .control ·) ++ [(e, .take), (e, .take)]))).2 =
      (l.run ((e, .send .settingsChanged) :: (startup.map (e, .control ·) ++ [(e, .take)]))).2 := by
  intro e l
  obtain ⟨hcontroller, hloop⟩ := idle_events_leave_no_trace
  have hstartup : ∀ input ∈ startup.map fun i => (e, Loop.Input.control i), input.2 ≠ .take := by
    intro input hinput
    obtain ⟨i, -, rfl⟩ := List.mem_map.mp hinput
    exact nofun
  refine ⟨rfl, hcontroller _ _ _ _ _ (.unopened rfl rfl (.inl rfl)), (hloop _ _ _ ?_).2,
    (hloop _ _ _ ?_).2⟩
  · apply Loop.Padded.behind [(e, .send .settingsChanged)]
    apply Loop.Padded.sent e savedUnopened
    apply Loop.Padded.beside hstartup
    exact .both e _ nofun (.both e .take (fun _ _ _ => rfl) .nil)
  · apply Loop.Padded.sent e savedUnopened
    refine .both e _ nofun (.beside hstartup ?_)
    exact .taken e rfl (.unopened rfl rfl (.inl rfl)) rfl rfl (.both e .take (fun _ _ _ => rfl) .nil)

end ServerLink.Controller
