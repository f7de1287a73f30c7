import ServerLink.Terminal.Host

namespace ServerLink.Terminal.Host

open ServerLink.Storage ServerLink.Panel

inductive Use where
  /-- A page is to be shown; files may have changed since the last use. -/
  | create (page : Page) (tree : Tree)
  | post (m : Message)
  | close
  | receive (panel : Nat)
  | leave (panel : Nat)

inductive Note where
  | created (panel : Nat)
  | posted (m : Message) (result : Except PostError Nat)
  | closed (panel : Option Nat)
  | received (panel : Nat) (receipt : Option Queue.Receipt)
  /-- Whether a session was there that could leave. -/
  | left (panel : Nat) (wasThere : Bool)

def use (h : Host) : Use → Note × Host
  | .create page tree =>
      let ((panel, _), h, _) := h.createPanel page tree
      (.created panel, h)
  | .post m =>
      let (result, h) := h.post m
      (.posted m result, h)
  | .close =>
      let (panel, h) := h.closeLatest
      (.closed panel, h)
  | .receive panel =>
      let (receipt, h) := h.receive panel
      (.received panel receipt, h)
  | .leave panel => (.left panel (h.board.isAttended panel), h.dropSession panel)

def uses (h : Host) : List Use → List Note × Host
  | [] => ([], h)
  | u :: us =>
      let (note, h) := h.use u
      let (log, h) := h.uses us
      (note :: log, h)

def fresh (settings : Settings) (installation : Path) (workspace : Option Path) (panelDirectory : Path)
    (settingsFile : Option Path) : Host :=
  { settings, installation, workspace, panelDirectory, settingsFile }

def createdIn (log : List Note) : List Nat :=
  log.filterMap fun
    | .created panel => some panel
    | _ => none

def acceptedIn (panel : Nat) (log : List Note) : List Message :=
  log.filterMap fun
    | .posted m (.ok p) => if p = panel then some m else none
    | _ => none

def receivedIn (panel : Nat) (log : List Note) : List Message :=
  log.filterMap fun
    | .received p (some (.message m)) => if p = panel then some m else none
    | _ => none

def isClosedIn (panel : Nat) (log : List Note) : Bool :=
  log.any fun
    | .closed (some p) => p == panel
    | _ => false

def hasLeftIn (panel : Nat) (log : List Note) : Bool :=
  log.any fun
    | .left p wasThere => wasThere && p == panel
    | _ => false

def isLiveIn (log : List Note) (panel : Nat) : Bool :=
  !isClosedIn panel log && !hasLeftIn panel log

/-- The panels to which messages may go, from the oldest to the newest. -/
def liveIn (log : List Note) : List Nat :=
  (createdIn log).filter (isLiveIn log)

/-- The messages that wait in a panel. What a session leaves behind is lost. -/
def waitingIn (panel : Nat) (log : List Note) : List Message :=
  if hasLeftIn panel log then []
  else (acceptedIn panel log).drop (receivedIn panel log).length

def queueIn (panel : Nat) (log : List Note) : Option Queue :=
  if panel ∈ createdIn log then
    some {
      capacity := 16
      waiting := waitingIn panel log
      closed := isClosedIn panel log
      abandoned := hasLeftIn panel log }
  else none

/-- What is said to a message: it goes to the newest panel that is live, if there is room. -/
def replyIn (log : List Note) : Except PostError Nat :=
  match (liveIn log).getLast? with
  | none => .error .noPanel
  | some panel => if (waitingIn panel log).length < 16 then .ok panel else .error (.full panel)

/-- What a session is told: the message that has waited longest, or that there is none, or that there
will be none any more. -/
def receiptIn (panel : Nat) (log : List Note) : Queue.Receipt :=
  match waitingIn panel log with
  | m :: _ => .message m
  | [] => if isClosedIn panel log then .ended else .empty

/-- What may be noted behind a log. -/
def Note.Follows (log : List Note) : Note → Prop
  | .created panel => panel = (createdIn log).length + 1
  | .posted _ result => result = replyIn log
  | .closed (some panel) => panel ∈ createdIn log ∧ isClosedIn panel log = false
  | .closed none => liveIn log = []
  | .received panel receipt =>
      receipt = if panel ∈ createdIn log ∧ hasLeftIn panel log = false then some (receiptIn panel log) else none
  | .left panel wasThere => wasThere = decide (panel ∈ createdIn log ∧ hasLeftIn panel log = false)

section Append

variable (log : List Note) (panel : Nat)

theorem createdIn_append (more : List Note) : createdIn (log ++ more) = createdIn log ++ createdIn more :=
  List.filterMap_append

theorem acceptedIn_append (more : List Note) :
    acceptedIn panel (log ++ more) = acceptedIn panel log ++ acceptedIn panel more :=
  List.filterMap_append

theorem receivedIn_append (more : List Note) :
    receivedIn panel (log ++ more) = receivedIn panel log ++ receivedIn panel more :=
  List.filterMap_append

theorem isClosedIn_append (more : List Note) :
    isClosedIn panel (log ++ more) = (isClosedIn panel log || isClosedIn panel more) := by
  simp [isClosedIn]

theorem hasLeftIn_append (more : List Note) :
    hasLeftIn panel (log ++ more) = (hasLeftIn panel log || hasLeftIn panel more) := by
  simp [hasLeftIn]

end Append

variable {log : List Note} {panel : Nat}

/-- A note does not tell of a panel. -/
structure Note.Spares (note : Note) (panel : Nat) : Prop where
  accepted : acceptedIn panel [note] = []
  received : receivedIn panel [note] = []
  closed : isClosedIn panel [note] = false
  left : hasLeftIn panel [note] = false

section Concat

variable {note : Note}

theorem createdIn_concat (log : List Note) (hnote : createdIn [note] = []) :
    createdIn (log ++ [note]) = createdIn log := by
  rw [createdIn_append, hnote, List.append_nil]

theorem acceptedIn_concat (log : List Note) (hnote : acceptedIn panel [note] = []) :
    acceptedIn panel (log ++ [note]) = acceptedIn panel log := by
  rw [acceptedIn_append, hnote, List.append_nil]

theorem receivedIn_concat (log : List Note) (hnote : receivedIn panel [note] = []) :
    receivedIn panel (log ++ [note]) = receivedIn panel log := by
  rw [receivedIn_append, hnote, List.append_nil]

theorem isClosedIn_concat (log : List Note) (hnote : isClosedIn panel [note] = false) :
    isClosedIn panel (log ++ [note]) = isClosedIn panel log := by
  rw [isClosedIn_append, hnote, Bool.or_false]

theorem hasLeftIn_concat (log : List Note) (hnote : hasLeftIn panel [note] = false) :
    hasLeftIn panel (log ++ [note]) = hasLeftIn panel log := by
  rw [hasLeftIn_append, hnote, Bool.or_false]

theorem queueIn_concat (hcreated : panel ∈ createdIn log) (hnote : createdIn [note] = []) :
    queueIn panel (log ++ [note]) = some {
      capacity := 16
      waiting := waitingIn panel (log ++ [note])
      closed := isClosedIn panel (log ++ [note])
      abandoned := hasLeftIn panel (log ++ [note]) } := by
  rw [queueIn, createdIn_concat log hnote, if_pos hcreated]

theorem Note.Spares.queueIn (hspares : note.Spares panel) (log : List Note)
    (hnote : createdIn [note] = []) :
    Host.queueIn panel (log ++ [note]) = Host.queueIn panel log := by
  simp only [Host.queueIn, waitingIn, createdIn_concat log hnote, acceptedIn_concat log hspares.accepted,
    receivedIn_concat log hspares.received, isClosedIn_concat log hspares.closed,
    hasLeftIn_concat log hspares.left]

end Concat

theorem isLiveIn_append (log more : List Note) (panel : Nat) :
    isLiveIn (log ++ more) panel = (isLiveIn more panel && isLiveIn log panel) := by
  simp only [isLiveIn, isClosedIn_append, hasLeftIn_append, Bool.not_or]
  ac_rfl

theorem liveIn_append (log : List Note) {more : List Note} (hcreated : createdIn more = []) :
    liveIn (log ++ more) = (liveIn log).filter (isLiveIn more) := by
  simp only [liveIn, createdIn_append, hcreated, List.append_nil, List.filter_filter]
  exact List.filter_congr fun panel _ => isLiveIn_append log more panel

theorem mem_liveIn : panel ∈ liveIn log ↔
    panel ∈ createdIn log ∧ isClosedIn panel log = false ∧ hasLeftIn panel log = false := by
  simp [liveIn, isLiveIn]

theorem mem_liveIn_of_replyIn (hreply : replyIn log = .ok panel) : panel ∈ liveIn log := by
  unfold replyIn at hreply
  split at hreply
  · cases hreply
  · rename_i last hlast
    split at hreply
    · cases hreply
      exact List.mem_of_getLast? hlast
    · cases hreply

theorem receivedIn_message (log : List Note) (panel : Nat) (m : Message) :
    receivedIn panel (log ++ [.received panel (some (.message m))]) = receivedIn panel log ++ [m] := by
  simp [receivedIn]

theorem receivedIn_of_ne {other : Nat} (hne : other ≠ panel) (receipt : Option Queue.Receipt) :
    receivedIn other [.received panel receipt] = [] := by
  cases receipt with
  | none => rfl
  | some receipt => cases receipt <;> simp [receivedIn, Ne.symm hne]

theorem receiptIn_eq_ended (hended : receiptIn panel log = .ended) :
    waitingIn panel log = [] ∧ isClosedIn panel log = true := by
  unfold receiptIn at hended
  split at hended
  · cases hended
  · rename_i hwaiting
    split at hended
    · rename_i hclosed
      exact ⟨hwaiting, hclosed⟩
    · cases hended

end ServerLink.Terminal.Host
