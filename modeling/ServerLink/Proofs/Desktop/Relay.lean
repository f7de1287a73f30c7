import ServerLink.Desktop
import ServerLink.Proofs.Panel.Board
import ServerLink.Proofs.Panel.Message

/-!
Messages of panels are relayed once each and in their order, whatever happens to the controller and its clients,
to the other panels and to the requests that have been made.
-/

namespace ServerLink.Desktop

def Act.accepted? (panel : Nat) : Act → Option Panel.Message
  | .posted p m => if p = panel then some m else none
  | _ => none

def Act.requested? (panel : Nat) : Act → Option Panel.Request
  | .requested p r => if p = panel then some r else none
  | _ => none

def acceptedBy (panel : Nat) (acts : List Act) : List Panel.Message :=
  acts.filterMap (Act.accepted? panel)

def requestsFor (panel : Nat) (acts : List Act) : List Panel.Request :=
  acts.filterMap (Act.requested? panel)

/-- Whether the session of a panel asks for a message. -/
def Input.relays (panel : Nat) : Input → Bool
  | .relay p => p == panel
  | _ => false

def Input.settles : Input → Bool
  | .settle .. => true
  | _ => false

def Act.isEnd : Act → Bool
  | .ended .. => true
  | _ => false

@[simp] theorem acceptedBy_append (panel : Nat) (acts more : List Act) :
    acceptedBy panel (acts ++ more) = acceptedBy panel acts ++ acceptedBy panel more :=
  List.filterMap_append

@[simp] theorem requestsFor_append (panel : Nat) (acts more : List Act) :
    requestsFor panel (acts ++ more) = requestsFor panel acts ++ requestsFor panel more :=
  List.filterMap_append

theorem run_append (d : Desktop) (before after : List Input) :
    d.run (before ++ after) =
      (((d.run before).1.run after).1, (d.run before).2 ++ ((d.run before).1.run after).2) := by
  induction before generalizing d with
  | nil => simp [run]
  | cons i before ih => simp [run, ih, List.append_assoc]

/-- The numbers of the panels are below that of the next one, and every session stays. -/
structure Sound (d : Desktop) : Prop where
  fresh : ∀ panel, d.nextPanel ≤ panel → d.board.queue? panel = none
  attended : ∀ panel q, d.board.queue? panel = some q → q.abandoned = false

theorem sound_start (controller : Controller) (nextPanel : Nat) : Sound { controller, nextPanel } :=
  ⟨fun _ _ => rfl, nofun⟩

theorem Sound.set {d e : Desktop} (hd : d.Sound) {panel : Nat} {q : Panel.Queue} (q' : Panel.Queue)
    (hq : d.board.queue? panel = some q) (hq' : q'.abandoned = false)
    (hnext : e.nextPanel = d.nextPanel) (hboard : e.board = d.board.set panel q') : e.Sound := by
  constructor
  · intro other hother
    rw [hnext] at hother
    have hne : other ≠ panel := by
      rintro rfl
      rw [hd.fresh other hother] at hq
      cases hq
    rw [hboard, Panel.Board.queue?_set, if_neg hne]
    exact hd.fresh other hother
  · intro other p hp
    rw [hboard, Panel.Board.queue?_set] at hp
    split at hp
    · cases hp
      exact hq'
    · exact hd.attended other p hp

theorem Sound.opens {d : Desktop} (hd : d.Sound) (page capacity : Nat) : (d.opens page capacity).1.Sound := by
  unfold Desktop.opens
  split
  · exact hd
  · constructor
    · intro other hother
      have hlt : d.nextPanel < other := hother
      rw [Panel.Board.queue?_add, if_neg (Nat.ne_of_gt hlt)]
      exact hd.fresh other (Nat.le_of_lt hlt)
    · intro other q hq
      rw [Panel.Board.queue?_add] at hq
      split at hq
      · cases hq
        rfl
      · exact hd.attended other q hq

theorem post_cases (d : Desktop) (panel : Nat) (m : Panel.Message) :
    d.post panel m = (d, []) ∨ ∃ q, d.board.queue? panel = some q ∧ q.closed = false ∧
      q.waiting.length < q.capacity ∧ d.post panel m =
        ({ d with board := d.board.set panel { q with waiting := q.waiting ++ [m] } },
          [.posted panel m]) := by
  unfold post isOpen
  cases hq : d.board.queue? panel with
  | none => exact .inl rfl
  | some q =>
      cases hclosed : q.closed with
      | true => exact .inl (by simp [hclosed])
      | false =>
          have hpost := Panel.Board.post_of_queue? hq m
          by_cases habandoned : q.abandoned = true
          · exact .inl (by simp [hclosed, hpost, habandoned])
          · by_cases hroom : q.waiting.length < q.capacity
            · exact .inr ⟨q, rfl, hclosed, hroom, by simp [hclosed, hpost, habandoned, hroom]⟩
            · exact .inl (by simp [hclosed, hpost, habandoned, hroom])

theorem relay_of_none {d : Desktop} {panel : Nat} (hnone : d.board.queue? panel = none) :
    d.relay panel = (d, []) := by
  simp [relay, Panel.Board.relay_of_none hnone]

theorem relay_of_queue? {d : Desktop} (hd : d.Sound) {panel : Nat} {q : Panel.Queue}
    (hq : d.board.queue? panel = some q) :
    (d.relay panel).1.board = d.board.set panel { q with waiting := q.waiting.tail } ∧
      (d.relay panel).2 =
        (q.waiting.head?.bind Panel.Message.request?).toList.map (.requested panel) := by
  simp [relay, Panel.Board.relay_of_queue? hq (hd.attended panel q hq)]

theorem Sound.step {d : Desktop} (hd : d.Sound) (i : Input) : (d.step i).1.Sound := by
  cases i with
  | control e i => exact ⟨hd.fresh, hd.attended⟩
  | opens page capacity => exact hd.opens page capacity
  | post panel m =>
      rcases d.post_cases panel m with hpost | ⟨q, hq, -, -, hpost⟩
      · rw [Desktop.step, hpost]
        exact hd
      · rw [Desktop.step, hpost]
        exact hd.set { q with waiting := q.waiting ++ [m] } hq (hd.attended panel q hq) rfl rfl
  | close panel =>
      cases hq : d.board.queue? panel with
      | none => simpa [Desktop.step, Panel.Board.close, hq] using hd
      | some q =>
          refine hd.set q.close hq (hd.attended panel q hq) rfl ?_
          simp [Desktop.step, Panel.Board.close, hq]
  | relay panel =>
      cases hq : d.board.queue? panel with
      | none =>
          rw [Desktop.step, relay_of_none hq]
          exact hd
      | some q =>
          exact hd.set { q with waiting := q.waiting.tail } hq (hd.attended panel q hq) rfl
            (relay_of_queue? hd hq).1
  | settle request ending =>
      simp only [Desktop.step, settle]
      split
      · exact hd
      · exact ⟨hd.fresh, hd.attended⟩

theorem Sound.run {d : Desktop} (hd : d.Sound) (inputs : List Input) : (d.run inputs).1.Sound := by
  induction inputs generalizing d with
  | nil => exact hd
  | cons i inputs ih => exact ih (hd.step i)

/-- In a stretch of a run the session of a panel takes some messages in their order and makes their requests.
If it asks often enough, it takes all that waited. -/
structure Takes (panel times : Nat) (before : List Panel.Message) (acts : List Act)
    (after taken : List Panel.Message) : Prop where
  order : before ++ acceptedBy panel acts = taken ++ after
  requests : requestsFor panel acts = taken.filterMap Panel.Message.request?
  enough : min times before.length ≤ taken.length

theorem Takes.trans {panel n m : Nat} {before middle after taken more : List Panel.Message}
    {acts acts' : List Act} (first : Takes panel n before acts middle taken)
    (second : Takes panel m middle acts' after more) :
    Takes panel (n + m) before (acts ++ acts') after (taken ++ more) where
  order := by
    rw [acceptedBy_append, ← List.append_assoc, first.order, List.append_assoc, second.order,
      List.append_assoc]
  requests := by simp [first.requests, second.requests]
  enough := by
    have hlength := congrArg List.length first.order
    simp only [List.length_append] at hlength ⊢
    have hfirst := first.enough
    have hsecond := second.enough
    -- Either all that waited is taken in the first stretch, or the queue is emptied in the second, or each
    -- stretch takes a message whenever it asks.
    omega

theorem takes_none {panel : Nat} {before : List Panel.Message} {acts : List Act}
    (haccepted : acceptedBy panel acts = []) (hrequests : requestsFor panel acts = []) :
    Takes panel 0 before acts before [] :=
  ⟨by simp [haccepted], by simp [hrequests], by simp⟩

theorem takes_post (d : Desktop) (panel other : Nat) (m : Panel.Message) :
    Takes other 0 (d.board.waiting other) (d.post panel m).2 ((d.post panel m).1.board.waiting other) [] := by
  rcases d.post_cases panel m with hpost | ⟨q, hq, -, -, hpost⟩
  · rw [hpost]
    exact takes_none rfl rfl
  · rw [hpost]
    simp only [Panel.Board.waiting_set]
    by_cases hother : other = panel
    · subst hother
      rw [if_pos rfl, Panel.Board.waiting_of_queue? hq]
      exact ⟨by simp [acceptedBy, Act.accepted?], rfl, by simp⟩
    · rw [if_neg hother]
      exact takes_none (by simp [acceptedBy, Act.accepted?, Ne.symm hother]) rfl

theorem takes_relay {d : Desktop} (hd : d.Sound) (panel other : Nat) :
    ∃ taken, Takes other (if panel = other then 1 else 0) (d.board.waiting other) (d.relay panel).2
      ((d.relay panel).1.board.waiting other) taken := by
  cases hq : d.board.queue? panel with
  | none =>
      rw [relay_of_none hq]
      split
      · rename_i hother
        subst hother
        refine ⟨[], ?_, rfl, ?_⟩
        · simp [acceptedBy]
        · simp [Panel.Board.waiting, hq]
      · exact ⟨[], takes_none rfl rfl⟩
  | some q =>
      obtain ⟨hboard, hacts⟩ := relay_of_queue? hd hq
      rw [hboard, hacts, Panel.Board.waiting_set]
      split
      · rename_i hother
        subst hother
        rw [if_pos rfl, Panel.Board.waiting_of_queue? hq]
        refine ⟨q.waiting.head?.toList, ?_⟩
        cases q.waiting with
        | nil => exact ⟨rfl, rfl, by simp⟩
        | cons m ms =>
            cases hrequest : m.request? with
            | none => exact ⟨by simp [acceptedBy, hrequest], by simp [requestsFor, hrequest], by simp⟩
            | some r =>
                exact ⟨by simp [acceptedBy, Act.accepted?, hrequest],
                  by simp [requestsFor, Act.requested?, hrequest], by simp⟩
      · rename_i hother
        rw [if_neg (Ne.symm hother)]
        refine ⟨[], takes_none ?_ ?_⟩
        · simp [acceptedBy, Act.accepted?, List.filterMap_map, Function.comp_def]
        · simp [requestsFor, Act.requested?, List.filterMap_map, Function.comp_def, hother]

theorem takes_opens {d : Desktop} (hd : d.Sound) (page capacity other : Nat) :
    Takes other 0 (d.board.waiting other) (d.opens page capacity).2
      ((d.opens page capacity).1.board.waiting other) [] := by
  unfold opens
  split
  · exact takes_none rfl rfl
  · have hwaiting : (d.board.add d.nextPanel capacity).waiting other = d.board.waiting other := by
      rw [Panel.Board.add, Panel.Board.waiting_set]
      split
      · rename_i hother
        simp [Panel.Board.waiting, hother, hd.fresh d.nextPanel (Nat.le_refl _)]
      · rfl
    simp only [hwaiting]
    exact takes_none rfl rfl

theorem takes_settle (d : Desktop) (request : Nat) (ending : Ending) (panel : Nat) :
    Takes panel 0 (d.board.waiting panel) (d.settle request ending).2
      ((d.settle request ending).1.board.waiting panel) [] := by
  unfold settle
  split <;> exact takes_none rfl rfl

theorem takes_step {d : Desktop} (hd : d.Sound) (i : Input) (panel : Nat) :
    ∃ taken, Takes panel (if i.relays panel then 1 else 0) (d.board.waiting panel) (d.step i).2
      ((d.step i).1.board.waiting panel) taken := by
  cases i with
  | control e i =>
      refine ⟨[], takes_none ?_ ?_⟩
      · simp [Desktop.step, control, acceptedBy, Act.accepted?, List.filterMap_map, Function.comp_def]
      · simp [Desktop.step, control, requestsFor, Act.requested?, List.filterMap_map, Function.comp_def]
  | opens page capacity => exact ⟨[], takes_opens hd page capacity panel⟩
  | post other m => exact ⟨[], d.takes_post other panel m⟩
  | close other =>
      refine ⟨[], ?_⟩
      simp only [Desktop.step, Panel.Board.waiting_close]
      exact takes_none rfl rfl
  | relay other =>
      simp only [Input.relays, beq_iff_eq]
      exact takes_relay hd other panel
  | settle request ending => exact ⟨[], d.takes_settle request ending panel⟩

theorem takes_run {d : Desktop} (hd : d.Sound) (inputs : List Input) (panel : Nat) :
    ∃ taken, Takes panel (inputs.countP (·.relays panel)) (d.board.waiting panel) (d.run inputs).2
      ((d.run inputs).1.board.waiting panel) taken := by
  induction inputs generalizing d with
  | nil => exact ⟨[], takes_none rfl rfl⟩
  | cons i inputs ih =>
      obtain ⟨taken, hstep⟩ := takes_step hd i panel
      obtain ⟨more, hrun⟩ := ih (hd.step i)
      rw [List.countP_cons, Nat.add_comm]
      exact ⟨taken ++ more, hstep.trans hrun⟩

def IsClosed (d : Desktop) (panel : Nat) : Prop :=
  ∃ q, d.board.queue? panel = some q ∧ q.closed = true

theorem isClosed_close {d : Desktop} {panel : Nat} (hopened : (d.board.queue? panel).isSome = true) :
    (d.step (.close panel)).1.IsClosed panel := by
  obtain ⟨q, hq⟩ := Option.isSome_iff_exists.mp hopened
  exact ⟨q.close, by simp [step, Panel.Board.queue?_close, hq], rfl⟩

theorem IsClosed.set {d e : Desktop} {panel other : Nat} (h : d.IsClosed panel) {q : Panel.Queue}
    (q' : Panel.Queue) (hq : d.board.queue? other = some q) (hclosed : q.closed = true → q'.closed = true)
    (hboard : e.board = d.board.set other q') : e.IsClosed panel := by
  obtain ⟨p, hp, hpclosed⟩ := h
  rw [IsClosed, hboard, Panel.Board.queue?_set]
  split
  · rename_i hother
    subst hother
    obtain rfl : q = p := Option.some.inj (hq.symm.trans hp)
    exact ⟨q', rfl, hclosed hpclosed⟩
  · exact ⟨p, hp, hpclosed⟩

theorem IsClosed.opens {d : Desktop} (hd : d.Sound) {panel : Nat} (h : d.IsClosed panel)
    (page capacity : Nat) : (d.opens page capacity).1.IsClosed panel := by
  unfold Desktop.opens
  split
  · exact h
  · obtain ⟨q, hq, hclosed⟩ := h
    have hne : panel ≠ d.nextPanel := by
      rintro rfl
      rw [hd.fresh _ (Nat.le_refl _)] at hq
      cases hq
    exact ⟨q, by rw [Panel.Board.queue?_add, if_neg hne, hq], hclosed⟩

theorem IsClosed.post {d : Desktop} {panel : Nat} (h : d.IsClosed panel) (other : Nat)
    (m : Panel.Message) :
    (d.post other m).1.IsClosed panel ∧ acceptedBy panel (d.post other m).2 = [] := by
  rcases d.post_cases other m with hpost | ⟨q, hq, hopen, -, hpost⟩
  · rw [hpost]
    exact ⟨h, rfl⟩
  · rw [hpost]
    have hne : other ≠ panel := by
      rintro rfl
      obtain ⟨p, hp, hclosed⟩ := h
      obtain rfl : q = p := Option.some.inj (hq.symm.trans hp)
      simp [hopen] at hclosed
    exact ⟨h.set { q with waiting := q.waiting ++ [m] } hq id rfl,
      by simp [acceptedBy, Act.accepted?, hne]⟩

theorem IsClosed.step {d : Desktop} (hd : d.Sound) {panel : Nat} (h : d.IsClosed panel) (i : Input) :
    (d.step i).1.IsClosed panel ∧ acceptedBy panel (d.step i).2 = [] := by
  cases i with
  | control e i =>
      refine ⟨h, ?_⟩
      simp [Desktop.step, control, acceptedBy, Act.accepted?, List.filterMap_map, Function.comp_def]
  | opens page capacity =>
      refine ⟨h.opens hd page capacity, ?_⟩
      simp only [Desktop.step, Desktop.opens]
      split <;> rfl
  | post other m => exact h.post other m
  | close other =>
      refine ⟨?_, rfl⟩
      cases hq : d.board.queue? other with
      | none => simpa [Desktop.step, Panel.Board.close, hq] using h
      | some q =>
          refine h.set q.close hq (fun _ => rfl) ?_
          simp [Desktop.step, Panel.Board.close, hq]
  | relay other =>
      cases hq : d.board.queue? other with
      | none =>
          rw [Desktop.step, relay_of_none hq]
          exact ⟨h, rfl⟩
      | some q =>
          obtain ⟨hboard, hacts⟩ := relay_of_queue? hd hq
          refine ⟨h.set { q with waiting := q.waiting.tail } hq id hboard, ?_⟩
          rw [Desktop.step, hacts]
          simp [acceptedBy, Act.accepted?, List.filterMap_map, Function.comp_def]
  | settle request ending =>
      simp only [Desktop.step, settle]
      split <;> exact ⟨h, rfl⟩

theorem IsClosed.run {d : Desktop} (hd : d.Sound) {panel : Nat} (h : d.IsClosed panel)
    (inputs : List Input) : acceptedBy panel (d.run inputs).2 = [] := by
  induction inputs generalizing d with
  | nil => rfl
  | cons i inputs ih =>
      obtain ⟨hstep, haccepted⟩ := h.step hd i
      rw [Desktop.run, acceptedBy_append, haccepted, ih (hd.step i) hstep]
      rfl

def withRequests (d : Desktop) (requests : List Panel.Request) : Desktop :=
  { d with underWay := requests }

theorem post_withRequests (d : Desktop) (requests : List Panel.Request) (panel : Nat)
    (m : Panel.Message) : (d.withRequests requests).post panel m =
      ((d.post panel m).1.withRequests requests, (d.post panel m).2) := by
  have hopen : (d.withRequests requests).isOpen panel = d.isOpen panel := rfl
  have hboard : (d.withRequests requests).board = d.board := rfl
  simp only [post, hopen, hboard]
  split
  · cases d.board.post panel m <;> rfl
  · rfl

/-- Which requests are under way makes no difference to what else happens. -/
theorem step_withRequests (d : Desktop) (requests : List Panel.Request) {i : Input}
    (hi : i.settles = false) : ∃ left, (d.withRequests requests).step i =
      ((d.step i).1.withRequests left, (d.step i).2) ∧ ∀ act ∈ (d.step i).2, act.isEnd = false := by
  cases i with
  | control e i => exact ⟨requests, rfl, by simp [step, control, Act.isEnd]⟩
  | opens page capacity =>
      refine ⟨requests, ?_⟩
      simp only [step, opens, withRequests]
      split
      · exact ⟨rfl, nofun⟩
      · exact ⟨rfl, by simp [Act.isEnd]⟩
  | post panel m =>
      refine ⟨requests, d.post_withRequests requests panel m, ?_⟩
      rcases d.post_cases panel m with hpost | ⟨q, -, -, -, hpost⟩ <;> simp [step, hpost, Act.isEnd]
  | close panel => exact ⟨requests, rfl, nofun⟩
  | relay panel =>
      exact ⟨requests ++ (d.board.relay panel).1.toList, rfl, by simp [step, relay, Act.isEnd]⟩
  | settle request ending => cases hi

theorem step_settle (d : Desktop) (request : Nat) (ending : Ending) :
    ∃ left, (d.step (.settle request ending)).1 = d.withRequests left ∧
      (d.step (.settle request ending)).2.filter (!·.isEnd) = [] := by
  simp only [step, settle]
  split
  · exact ⟨d.underWay, rfl, rfl⟩
  · exact ⟨_, rfl, rfl⟩

/-- A run without the ends of its requests is the same run, but for the ends. -/
theorem run_unsettled (d : Desktop) (requests : List Panel.Request) (inputs : List Input) :
    ∃ left, (d.withRequests requests).run (inputs.filter (!·.settles)) =
      ((d.run inputs).1.withRequests left, (d.run inputs).2.filter (!·.isEnd)) := by
  induction inputs generalizing d requests with
  | nil => exact ⟨requests, rfl⟩
  | cons i inputs ih =>
      cases hi : i.settles with
      | true =>
          cases i with
          | settle request ending =>
              obtain ⟨left, hstep, hacts⟩ := step_settle d request ending
              obtain ⟨last, hrun⟩ := ih (d.withRequests left) requests
              refine ⟨last, ?_⟩
              simp only [run, List.filter_append, hacts, hstep, List.nil_append]
              rw [List.filter_cons_of_neg (by simp [Input.settles])]
              exact hrun
          | _ => cases hi
      | false =>
          obtain ⟨left, hstep, hacts⟩ := step_withRequests d requests hi
          obtain ⟨last, hrun⟩ := ih (d.step i).1 left
          refine ⟨last, ?_⟩
          have hkept : (d.step i).2.filter (!·.isEnd) = (d.step i).2 :=
            List.filter_eq_self.mpr fun act hact => by simp [hacts act hact]
          rw [List.filter_cons_of_pos (by simp [hi])]
          simp only [run, List.filter_append, hkept, hstep, hrun]

/-- The requests made for a panel are those that its messages ask for, in the order in which they were
accepted, up to those that still wait; these are made, too, once its session has asked often enough, whatever
else happens until then. Once its window is closed nothing is accepted any more, and what comes of the requests
makes no difference. -/
theorem messages_relayed_once (controller : Controller) (nextPanel : Nat) (inputs : List Input)
    (panel : Nat) :
    let d := (run { controller, nextPanel } inputs).1
    let acts := (run { controller, nextPanel } inputs).2
    (∀ (m : Panel.Message) r, m.Asks r ↔ m.request? = r) ∧
    (∃ taken, acceptedBy panel acts = taken ++ d.board.waiting panel ∧
      requestsFor panel acts = taken.filterMap Panel.Message.request?) ∧
    (∀ later, (d.board.waiting panel).length ≤ later.countP (·.relays panel) →
      (acceptedBy panel acts).filterMap Panel.Message.request? <+:
        requestsFor panel (acts ++ (d.run later).2)) ∧
    (∀ before after, inputs = before ++ .close panel :: after →
      ((run { controller, nextPanel } before).1.board.queue? panel).isSome →
      acceptedBy panel acts = acceptedBy panel (run { controller, nextPanel } before).2) ∧
    (run { controller, nextPanel } (inputs.filter (!·.settles))).1.board = d.board ∧
    (run { controller, nextPanel } (inputs.filter (!·.settles))).2 = acts.filter (!·.isEnd) := by
  intro d acts
  have hsound := sound_start controller nextPanel
  obtain ⟨taken, htaken⟩ := takes_run hsound inputs panel
  have haccepted : acceptedBy panel acts = taken ++ d.board.waiting panel := htaken.order
  refine ⟨fun m r => Panel.Message.asks_iff, ⟨taken, haccepted, htaken.requests⟩, ?_, ?_, ?_⟩
  · intro later hoften
    obtain ⟨more, hmore⟩ := takes_run (hsound.run inputs) later panel
    have hwaiting : d.board.waiting panel <+: more := by
      have hprefix : d.board.waiting panel <+: more ++ ((d.run later).1.board.waiting panel) :=
        hmore.order ▸ List.prefix_append _ _
      refine List.prefix_of_prefix_length_le hprefix (List.prefix_append _ _) ?_
      have henough : min (later.countP (·.relays panel)) (d.board.waiting panel).length ≤ more.length :=
        hmore.enough
      rwa [Nat.min_eq_right hoften] at henough
    rw [requestsFor_append, show requestsFor panel acts = _ from htaken.requests,
      show requestsFor panel (d.run later).2 = _ from hmore.requests, ← List.filterMap_append, haccepted]
    exact ((List.prefix_append_right_inj taken).mpr hwaiting).filterMap _
  · rintro before after rfl hopened
    have hclosed := (isClosed_close hopened).run ((hsound.run before).step (.close panel)) after
    have hacts : acts = (run { controller, nextPanel } before).2 ++
        ((run { controller, nextPanel } before).1.step (.close panel)).2 ++
          (((run { controller, nextPanel } before).1.step (.close panel)).1.run after).2 := by
      simp [acts, run_append, run]
    rw [hacts, acceptedBy_append, acceptedBy_append, hclosed]
    simp [step, acceptedBy]
  · obtain ⟨left, hrun⟩ := run_unsettled { controller, nextPanel } [] inputs
    have hstart : withRequests { controller, nextPanel } [] = ({ controller, nextPanel } : Desktop) := rfl
    rw [hstart] at hrun
    rw [hrun]
    exact ⟨rfl, rfl⟩

end ServerLink.Desktop
