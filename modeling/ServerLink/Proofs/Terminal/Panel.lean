import ServerLink.Proofs.Panel.Board
import ServerLink.Proofs.Terminal.Log

/-!
The panels of the terminal as bounded queues: the terminal does as its log says, message after message.
-/

namespace ServerLink.Terminal.Host

open ServerLink.Storage ServerLink.Panel

/-- The terminal after a log. -/
structure Keeps (log : List Note) (h : Host) : Prop where
  next : h.nextPanel = (createdIn log).length + 1
  numbered : createdIn log = List.range' 1 (createdIn log).length
  board : ∀ panel, h.board.queue? panel = queueIn panel log
  /-- Nothing is noted of a panel before it is opened. -/
  unopened : ∀ panel, panel ∉ createdIn log → acceptedIn panel log = [] ∧ receivedIn panel log = [] ∧
    isClosedIn panel log = false ∧ hasLeftIn panel log = false
  inOrder : ∀ panel, receivedIn panel log <+: acceptedIn panel log
  distinct : h.openPanels.Nodup
  opened : ∀ panel ∈ h.openPanels, panel ∈ createdIn log ∧ isClosedIn panel log = false
  /-- Of the panels that are kept as open, only those whose sessions have left are not live. -/
  live : h.openPanels.filter (isLiveIn log) = liveIn log

variable {log : List Note} {h : Host} {panel : Nat}

theorem Keeps.queue? (hk : Keeps log h) (hcreated : panel ∈ createdIn log) :
    h.board.queue? panel = some {
      capacity := 16
      waiting := waitingIn panel log
      closed := isClosedIn panel log
      abandoned := hasLeftIn panel log } := by
  rw [hk.board, queueIn, if_pos hcreated]

theorem Keeps.queue?_of_unopened (hk : Keeps log h) (hcreated : panel ∉ createdIn log) :
    h.board.queue? panel = none := by
  rw [hk.board, queueIn, if_neg hcreated]

theorem Keeps.isAttended (hk : Keeps log h) (panel : Nat) :
    h.board.isAttended panel = decide (panel ∈ createdIn log ∧ hasLeftIn panel log = false) := by
  by_cases hcreated : panel ∈ createdIn log
  · simp [Board.isAttended_of_queue? (hk.queue? hcreated), hcreated]
  · simp [Board.isAttended, hk.queue?_of_unopened hcreated, hcreated]

theorem keeps_fresh (settings : Settings) (installation : Path) (workspace : Option Path)
    (panelDirectory : Path) (settingsFile : Option Path) :
    Keeps [] (fresh settings installation workspace panelDirectory settingsFile) where
  next := rfl
  numbered := rfl
  board _ := rfl
  unopened _ _ := ⟨rfl, rfl, rfl, rfl⟩
  inOrder _ := List.prefix_rfl
  distinct := List.nodup_nil
  opened := nofun
  live := rfl

theorem Keeps.noted {t : Host} {note : Note} (hk : Keeps log h) (hcreated : createdIn [note] = [])
    (hnext : t.nextPanel = h.nextPanel)
    (hpanels : ∀ panel, note.Spares panel ∧ t.board.queue? panel = h.board.queue? panel ∨
      panel ∈ createdIn log ∧ t.board.queue? panel = queueIn panel (log ++ [note]) ∧
        receivedIn panel (log ++ [note]) <+: acceptedIn panel (log ++ [note]))
    (hdistinct : t.openPanels.Nodup)
    (hopened : ∀ panel ∈ t.openPanels, panel ∈ h.openPanels ∧ isClosedIn panel [note] = false)
    (hlive : t.openPanels.filter (isLiveIn (log ++ [note])) =
      h.openPanels.filter (isLiveIn (log ++ [note]))) : Keeps (log ++ [note]) t := by
  have hsame := createdIn_concat log hcreated
  constructor
  · rw [hsame, hnext]
    exact hk.next
  · rw [hsame]
    exact hk.numbered
  · intro panel
    rcases hpanels panel with ⟨hspares, hqueue⟩ | ⟨-, hqueue, -⟩
    · rw [hqueue, hk.board, hspares.queueIn log hcreated]
    · exact hqueue
  · intro panel hpanel
    rw [hsame] at hpanel
    rcases hpanels panel with ⟨hspares, -⟩ | ⟨hthere, -⟩
    · rw [acceptedIn_concat log hspares.accepted, receivedIn_concat log hspares.received,
        isClosedIn_concat log hspares.closed, hasLeftIn_concat log hspares.left]
      exact hk.unopened panel hpanel
    · exact absurd hthere hpanel
  · intro panel
    rcases hpanels panel with ⟨hspares, -⟩ | ⟨-, -, hprefix⟩
    · rw [acceptedIn_concat log hspares.accepted, receivedIn_concat log hspares.received]
      exact hk.inOrder panel
    · exact hprefix
  · exact hdistinct
  · intro panel hpanel
    obtain ⟨hkept, hclosed⟩ := hopened panel hpanel
    rw [hsame, isClosedIn_concat log hclosed]
    exact hk.opened panel hkept
  · rw [hlive, liveIn_append log hcreated, ← hk.live, List.filter_filter]
    exact List.filter_congr fun panel _ => isLiveIn_append log [note] panel

theorem Keeps.changed {t : Host} {note : Note} (hk : Keeps log h) (hthere : panel ∈ createdIn log)
    (hcreated : createdIn [note] = []) (hnext : t.nextPanel = h.nextPanel)
    (hspares : ∀ other, other ≠ panel → note.Spares other)
    (hothers : ∀ other, other ≠ panel → t.board.queue? other = h.board.queue? other)
    (hqueue : t.board.queue? panel = queueIn panel (log ++ [note]))
    (horder : receivedIn panel (log ++ [note]) <+: acceptedIn panel (log ++ [note]))
    (hdistinct : t.openPanels.Nodup)
    (hopened : ∀ panel ∈ t.openPanels, panel ∈ h.openPanels ∧ isClosedIn panel [note] = false)
    (hlive : t.openPanels.filter (isLiveIn (log ++ [note])) =
      h.openPanels.filter (isLiveIn (log ++ [note]))) : Keeps (log ++ [note]) t := by
  refine hk.noted hcreated hnext ?_ hdistinct hopened hlive
  intro other
  by_cases hother : other = panel
  · subst hother
    exact .inr ⟨hthere, hqueue, horder⟩
  · exact .inl ⟨hspares other hother, hothers other hother⟩

theorem Keeps.idle {note : Note} (hk : Keeps log h) (hcreated : createdIn [note] = [])
    (hspares : ∀ panel, note.Spares panel) : Keeps (log ++ [note]) h :=
  hk.noted hcreated rfl (fun panel => .inl ⟨hspares panel, rfl⟩) hk.distinct
    (fun panel hpanel => ⟨hpanel, (hspares panel).closed⟩) rfl

theorem Keeps.next_notMem (hk : Keeps log h) : h.nextPanel ∉ createdIn log := by
  rw [hk.next, hk.numbered, List.mem_range'_1, List.length_range']
  omega

theorem Keeps.created (hk : Keeps log h) : Keeps (log ++ [.created h.nextPanel]) h.addPanel := by
  have hcreated : createdIn (log ++ [.created h.nextPanel]) = createdIn log ++ [h.nextPanel] :=
    createdIn_append _ _
  have haccepted (panel : Nat) :
      acceptedIn panel (log ++ [.created h.nextPanel]) = acceptedIn panel log := acceptedIn_concat log rfl
  have hreceived (panel : Nat) :
      receivedIn panel (log ++ [.created h.nextPanel]) = receivedIn panel log := receivedIn_concat log rfl
  have hclosed (panel : Nat) :
      isClosedIn panel (log ++ [.created h.nextPanel]) = isClosedIn panel log := isClosedIn_concat log rfl
  have hleft (panel : Nat) :
      hasLeftIn panel (log ++ [.created h.nextPanel]) = hasLeftIn panel log := hasLeftIn_concat log rfl
  have hlive : isLiveIn (log ++ [.created h.nextPanel]) = isLiveIn log := by
    funext panel
    rw [isLiveIn, hclosed, hleft]
    rfl
  obtain ⟨hnoMessage, hnoReceipt, hnotClosed, hnotLeft⟩ := hk.unopened _ hk.next_notMem
  constructor
  · rw [hcreated, List.length_append]
    exact congrArg (· + 1) hk.next
  · rw [hcreated, List.length_append, List.length_singleton, List.range'_concat, ← hk.numbered, hk.next]
    simp [Nat.add_comm]
  · intro panel
    simp only [queueIn, waitingIn, hcreated, haccepted, hreceived, hclosed, hleft, addPanel,
      Board.queue?_add]
    by_cases hpanel : panel = h.nextPanel
    · subst hpanel
      simp [hnoMessage, hnotClosed, hnotLeft]
      rfl
    · rw [if_neg hpanel, hk.board, queueIn]
      simp [hpanel, waitingIn]
  · intro panel hpanel
    rw [haccepted, hreceived, hclosed, hleft]
    rw [hcreated] at hpanel
    exact hk.unopened panel fun hmem => hpanel (List.mem_append_left _ hmem)
  · intro panel
    rw [haccepted, hreceived]
    exact hk.inOrder panel
  · refine List.nodup_append.mpr ⟨hk.distinct, by simp, ?_⟩
    intro panel hpanel other hother
    obtain rfl := List.mem_singleton.mp hother
    rintro rfl
    exact hk.next_notMem (hk.opened _ hpanel).1
  · intro panel hpanel
    rw [hcreated, hclosed]
    rcases List.mem_append.mp hpanel with hpanel | hpanel
    · exact (hk.opened panel hpanel).imp_left (List.mem_append_left _)
    · obtain rfl := List.mem_singleton.mp hpanel
      exact ⟨List.mem_append_right _ hpanel, hnotClosed⟩
  · rw [liveIn, hcreated, hlive, addPanel, List.filter_append, List.filter_append, hk.live, liveIn]

/-- Only panels whose sessions have left are taken out before a post. -/
theorem Keeps.prune (hk : Keeps log h) : Keeps log h.prune ∧ h.prune.openPanels = liveIn log := by
  have hattended : h.openPanels.filter h.board.isAttended = liveIn log := by
    rw [← hk.live]
    refine List.filter_congr ?_
    intro panel hpanel
    obtain ⟨hcreated, hclosed⟩ := hk.opened panel hpanel
    simp [hk.isAttended, isLiveIn, hcreated, hclosed]
  refine ⟨{ hk with distinct := ?_, opened := ?_, live := ?_ }, hattended⟩
  · exact hk.distinct.filter _
  · exact fun panel hpanel => hk.opened panel (List.mem_filter.mp hpanel).1
  · change (h.openPanels.filter h.board.isAttended).filter (isLiveIn log) = liveIn log
    rw [hattended, liveIn, List.filter_filter]
    simp

theorem Keeps.accepted (hk : Keeps log h) (hlive : panel ∈ liveIn log) (m : Message) :
    Keeps (log ++ [.posted m (.ok panel)])
      { h with board := h.board.set panel ⟨16, waitingIn panel log ++ [m], false, false⟩ } := by
  obtain ⟨hcreated, hclosed, hleft⟩ := mem_liveIn.mp hlive
  have hreceived : receivedIn panel (log ++ [.posted m (.ok panel)]) = receivedIn panel log :=
    receivedIn_concat log rfl
  have haccepted : acceptedIn panel (log ++ [.posted m (.ok panel)]) = acceptedIn panel log ++ [m] := by
    simp [acceptedIn]
  have hwaiting : waitingIn panel (log ++ [.posted m (.ok panel)]) = waitingIn panel log ++ [m] := by
    rw [waitingIn, waitingIn, hasLeftIn_concat log rfl, hleft, haccepted, hreceived, if_neg Bool.false_ne_true,
      if_neg Bool.false_ne_true, List.drop_append_of_le_length (hk.inOrder panel).length_le]
  refine hk.changed hcreated rfl rfl ?_ ?_ ?_ ?_ hk.distinct (fun other hother => ⟨hother, rfl⟩) rfl
  · intro other hother
    exact ⟨by simp [acceptedIn, Ne.symm hother], rfl, rfl, rfl⟩
  · intro other hother
    rw [Board.queue?_set, if_neg hother]
  · rw [queueIn_concat hcreated rfl, hwaiting, isClosedIn_concat log rfl, hasLeftIn_concat log rfl, hclosed,
      hleft, Board.queue?_set, if_pos rfl]
  · rw [hreceived, haccepted]
    exact (hk.inOrder panel).trans (List.prefix_append _ _)

theorem Keeps.post (hk : Keeps log h) (m : Message) :
    (h.post m).1 = replyIn log ∧ Keeps (log ++ [.posted m (h.post m).1]) (h.post m).2 := by
  obtain ⟨hpruned, hopen⟩ := hk.prune
  have hrefused (e : PostError) : Keeps (log ++ [.posted m (.error e)]) h.prune :=
    hpruned.idle rfl fun _ => ⟨rfl, rfl, rfl, rfl⟩
  cases hlast : (liveIn log).getLast? with
  | none =>
      have hpost : h.post m = (.error .noPanel, h.prune) := by simp only [Host.post, hopen, hlast]
      rw [hpost]
      exact ⟨by simp [replyIn, hlast], hrefused .noPanel⟩
  | some panel =>
      have hlive : panel ∈ liveIn log := List.mem_of_getLast? hlast
      obtain ⟨hcreated, hclosed, hleft⟩ := mem_liveIn.mp hlive
      have hqueue := hpruned.queue? hcreated
      rw [hclosed, hleft] at hqueue
      have hboard := Board.post_of_queue? hqueue m
      rw [if_neg Bool.false_ne_true] at hboard
      by_cases hroom : (waitingIn panel log).length < 16
      · rw [if_pos hroom] at hboard
        have hpost : h.post m = (.ok panel, { h.prune with
            board := h.prune.board.set panel ⟨16, waitingIn panel log ++ [m], false, false⟩ }) := by
          simp only [Host.post, hopen, hlast, hboard]
        rw [hpost]
        exact ⟨by simp [replyIn, hlast, hroom], hpruned.accepted hlive m⟩
      · rw [if_neg hroom] at hboard
        have hpost : h.post m = (.error (.full panel), h.prune) := by
          simp only [Host.post, hopen, hlast, hboard]
        rw [hpost]
        exact ⟨by simp [replyIn, hlast, hroom], hrefused (.full panel)⟩

theorem Keeps.closeLatest (hk : Keeps log h) :
    (Note.closed h.closeLatest.1).Follows log ∧ Keeps (log ++ [.closed h.closeLatest.1]) h.closeLatest.2 := by
  rcases List.eq_nil_or_concat h.openPanels with hopen | ⟨rest, panel, hopen⟩
  · have hclose : h.closeLatest = (none, h) := by simp [Host.closeLatest, hopen]
    have hlive : liveIn log = [] := by rw [← hk.live, hopen, List.filter_nil]
    rw [hclose]
    exact ⟨hlive, hk.idle rfl fun _ => ⟨rfl, rfl, rfl, rfl⟩⟩
  · rw [List.concat_eq_append] at hopen
    have hclose : h.closeLatest =
        (some panel, { h with board := h.board.close panel, openPanels := rest }) := by
      simp [Host.closeLatest, hopen]
    obtain ⟨hcreated, hopened⟩ := hk.opened panel (by simp [hopen])
    have hdistinct := hk.distinct
    rw [hopen, List.nodup_append] at hdistinct
    obtain ⟨hrest, -, hother⟩ := hdistinct
    have hnew : isClosedIn panel (log ++ [.closed (some panel)]) = true := by simp [isClosedIn]
    have hspares {other : Nat} (hne : other ≠ panel) : (Note.closed (some panel)).Spares other := by
      refine ⟨rfl, rfl, ?_, rfl⟩
      simp [isClosedIn, Ne.symm hne]
    rw [hclose]
    -- A session that has left may still be kept as open here: it is closed like any other.
    refine ⟨⟨hcreated, hopened⟩,
      hk.changed hcreated rfl rfl (fun _ => hspares) ?_ ?_ ?_ hrest ?_ ?_⟩
    · intro other hne
      rw [Board.queue?_close, if_neg hne]
    · rw [queueIn_concat hcreated rfl, hnew, waitingIn, hasLeftIn_concat log rfl, acceptedIn_concat log rfl,
        receivedIn_concat log rfl, Board.queue?_close, if_pos rfl, hk.queue? hcreated]
      rfl
    · rw [receivedIn_concat log rfl, acceptedIn_concat log rfl]
      exact hk.inOrder panel
    · intro other hmem
      have hne : other ≠ panel := hother other hmem panel (List.mem_singleton_self panel)
      exact ⟨by simp [hopen, hmem], (hspares hne).closed⟩
    · simp [hopen, isLiveIn, hnew]

/-- What was accepted for a session that is there has been received, or waits. -/
theorem Keeps.accepted_eq (hk : Keeps log h) (hleft : hasLeftIn panel log = false) :
    acceptedIn panel log = receivedIn panel log ++ waitingIn panel log := by
  rw [waitingIn, hleft]
  exact (List.prefix_iff_eq_append.mp (hk.inOrder panel)).symm

theorem Keeps.received (hk : Keeps log h) (hcreated : panel ∈ createdIn log)
    (hleft : hasLeftIn panel log = false) :
    let note : Note := .received panel (some (receiptIn panel log))
    waitingIn panel (log ++ [note]) = (waitingIn panel log).tail ∧
      Keeps (log ++ [note]) { h with
        board := h.board.set panel ⟨16, (waitingIn panel log).tail, isClosedIn panel log, false⟩ } := by
  intro note
  have haccepted : acceptedIn panel (log ++ [note]) = acceptedIn panel log := acceptedIn_concat log rfl
  have hall := hk.accepted_eq hleft
  have hnote : waitingIn panel (log ++ [note]) = (waitingIn panel log).tail ∧
      receivedIn panel (log ++ [note]) <+: acceptedIn panel log := by
    cases hwaiting : waitingIn panel log with
    | nil =>
        have hreceived : receivedIn panel [note] = [] := by
          simp only [note, receiptIn, hwaiting]
          split <;> rfl
        rw [waitingIn, haccepted, receivedIn_concat log hreceived, hasLeftIn_concat log rfl]
        exact ⟨hwaiting, hk.inOrder panel⟩
    | cons m rest =>
        have hreceived : receivedIn panel (log ++ [note]) = receivedIn panel log ++ [m] := by
          simp only [note, receiptIn, hwaiting]
          exact receivedIn_message log panel m
        rw [waitingIn, haccepted, hreceived, hasLeftIn_concat log rfl, hleft, hall, hwaiting]
        exact ⟨by simp, by simp⟩
  obtain ⟨hwaiting, horder⟩ := hnote
  refine ⟨hwaiting, hk.changed hcreated rfl rfl ?_ ?_ ?_ (haccepted ▸ horder) hk.distinct
    (fun other hother => ⟨hother, rfl⟩) rfl⟩
  · intro other hother
    exact ⟨rfl, receivedIn_of_ne hother (some (receiptIn panel log)), rfl, rfl⟩
  · intro other hother
    rw [Board.queue?_set, if_neg hother]
  · rw [queueIn_concat hcreated rfl, hwaiting, isClosedIn_concat log rfl, hasLeftIn_concat log rfl, hleft,
      Board.queue?_set, if_pos rfl]

theorem Keeps.receive (hk : Keeps log h) (panel : Nat) :
    (Note.received panel (h.receive panel).1).Follows log ∧
      Keeps (log ++ [.received panel (h.receive panel).1]) (h.receive panel).2 := by
  by_cases hthere : panel ∈ createdIn log ∧ hasLeftIn panel log = false
  · obtain ⟨hcreated, hleft⟩ := hthere
    have hboard := Board.receive_of_queue? (hk.queue? hcreated)
    rw [hleft, if_neg Bool.false_ne_true] at hboard
    have hreceive : h.receive panel = (some (receiptIn panel log), { h with
        board := h.board.set panel ⟨16, (waitingIn panel log).tail, isClosedIn panel log, false⟩ }) := by
      simp only [Host.receive, hboard, Queue.receive, receiptIn]
      cases waitingIn panel log <;> rfl
    rw [hreceive]
    exact ⟨by simp [Note.Follows, hcreated, hleft], (hk.received hcreated hleft).2⟩
  · have hboard : h.board.receive panel = (none, h.board) := by
      by_cases hcreated : panel ∈ createdIn log
      · rw [Board.receive_of_queue? (hk.queue? hcreated), if_pos]
        simpa [hcreated] using hthere
      · exact Board.receive_of_none (hk.queue?_of_unopened hcreated)
    have hreceive : h.receive panel = (none, h) := by simp only [Host.receive, hboard]
    rw [hreceive]
    exact ⟨by simp [Note.Follows, hthere], hk.idle rfl fun _ => ⟨rfl, rfl, rfl, rfl⟩⟩

theorem Keeps.dropSession (hk : Keeps log h) (panel : Nat) :
    (Note.left panel (h.board.isAttended panel)).Follows log ∧
      Keeps (log ++ [.left panel (h.board.isAttended panel)]) (h.dropSession panel) := by
  refine ⟨hk.isAttended panel, ?_⟩
  rw [hk.isAttended]
  by_cases hthere : panel ∈ createdIn log ∧ hasLeftIn panel log = false
  · obtain ⟨hcreated, hleft⟩ := hthere
    rw [decide_eq_true ⟨hcreated, hleft⟩]
    have hnew : hasLeftIn panel (log ++ [.left panel true]) = true := by simp [hasLeftIn]
    refine hk.changed hcreated rfl rfl ?_ ?_ ?_ ?_ hk.distinct (fun other hother => ⟨hother, rfl⟩) rfl
    · intro other hother
      exact ⟨rfl, rfl, rfl, by simp [hasLeftIn, Ne.symm hother]⟩
    · intro other hother
      rw [Host.dropSession, Board.queue?_abandon, if_neg hother]
    · rw [queueIn_concat hcreated rfl, hnew, waitingIn, hnew, if_pos rfl, isClosedIn_concat log rfl,
        Host.dropSession, Board.queue?_abandon, if_pos rfl, hk.queue? hcreated]
      rfl
    · rw [receivedIn_concat log rfl, acceptedIn_concat log rfl]
      exact hk.inOrder panel
  · rw [decide_eq_false hthere]
    refine hk.noted rfl rfl ?_ hk.distinct (fun other hother => ⟨hother, rfl⟩) rfl
    intro other
    refine .inl ⟨⟨rfl, rfl, rfl, rfl⟩, ?_⟩
    rw [Host.dropSession, Board.queue?_abandon]
    split
    · rename_i hother
      subst hother
      by_cases hcreated : other ∈ createdIn log
      · have hleft : hasLeftIn other log = true := by simpa [hcreated] using hthere
        simp [hk.queue? hcreated, Queue.abandon, waitingIn, hleft]
      · simp [hk.queue?_of_unopened hcreated]
    · rfl

theorem Keeps.use (hk : Keeps log h) (u : Use) :
    (h.use u).1.Follows log ∧ Keeps (log ++ [(h.use u).1]) (h.use u).2 := by
  cases u with
  | create page tree => exact ⟨hk.next, hk.created⟩
  | post m => exact hk.post m
  | close => exact hk.closeLatest
  | receive panel => exact hk.receive panel
  | leave panel => exact hk.dropSession panel

theorem uses_cons (h : Host) (u : Use) (us : List Use) :
    h.uses (u :: us) = ((h.use u).1 :: ((h.use u).2.uses us).1, ((h.use u).2.uses us).2) := rfl

theorem Keeps.uses (hk : Keeps log h) (us : List Use) : Keeps (log ++ (h.uses us).1) (h.uses us).2 := by
  induction us generalizing log h with
  | nil => simpa [Host.uses] using hk
  | cons u us ih =>
      rw [uses_cons, List.append_cons]
      exact ih (hk.use u).2

/-- A note of a run comes of one use, and those before it of the uses before that one. -/
theorem uses_split {h : Host} {us : List Use} {before after : List Note} {note : Note}
    (hsplit : (h.uses us).1 = before ++ note :: after) :
    ∃ first u rest, (h.uses first).1 = before ∧ ((h.uses first).2.use u).1 = note ∧
      (((h.uses first).2.use u).2.uses rest).1 = after := by
  induction us generalizing h before with
  | nil =>
      have hlength := congrArg List.length hsplit
      simp [Host.uses] at hlength
  | cons u us ih =>
      rw [uses_cons] at hsplit
      cases before with
      | nil =>
          obtain ⟨rfl, rfl⟩ := List.cons.inj hsplit
          exact ⟨[], u, us, rfl, rfl, rfl⟩
      | cons earlier before =>
          obtain ⟨rfl, hrest⟩ := List.cons.inj hsplit
          obtain ⟨first, v, rest, rfl, hnote, hafter⟩ := ih hrest
          exact ⟨u :: first, v, rest, rfl, hnote, hafter⟩

theorem Keeps.accepted_of_closed (hk : Keeps log h) (hclosed : isClosedIn panel log = true)
    (us : List Use) : acceptedIn panel (h.uses us).1 = [] := by
  induction us generalizing log h with
  | nil => rfl
  | cons u us ih =>
      obtain ⟨hfollows, hkept⟩ := hk.use u
      have hrest := ih hkept (by rw [isClosedIn_append, hclosed, Bool.true_or])
      have hnone : acceptedIn panel [(h.use u).1] = [] := by
        cases hnote : (h.use u).1 with
        | posted m result =>
            rw [hnote] at hfollows
            cases result with
            | error => rfl
            | ok other =>
                have hlive := mem_liveIn.mp (mem_liveIn_of_replyIn hfollows.symm)
                have hne : other ≠ panel := by
                  rintro rfl
                  exact Bool.false_ne_true (hlive.2.1.symm.trans hclosed)
                simp [acceptedIn, hne]
        | _ => rfl
      rw [uses_cons, ← List.singleton_append, acceptedIn_append, hnone, hrest, List.append_nil]

theorem Keeps.use_receive (hk : Keeps log h) (hcreated : panel ∈ createdIn log)
    (hleft : hasLeftIn panel log = false) :
    (h.use (.receive panel)).1 = .received panel (some (receiptIn panel log)) := by
  obtain ⟨hfollows, -⟩ := hk.receive panel
  rw [Note.Follows, if_pos ⟨hcreated, hleft⟩] at hfollows
  exact congrArg (Note.received panel) hfollows

/-- A session that asks on gets all that waits, in order, and is then told whether there will be more. -/
theorem Keeps.drains (hk : Keeps log h) (hcreated : panel ∈ createdIn log)
    (hleft : hasLeftIn panel log = false) :
    (h.uses (List.replicate ((waitingIn panel log).length + 1) (.receive panel))).1 =
      (waitingIn panel log).map (fun m => .received panel (some (.message m))) ++
        [.received panel (some (if isClosedIn panel log then .ended else .empty))] := by
  have hnote := hk.use_receive hcreated hleft
  -- By induction on what waits: each receipt takes the first of it, and the panel stays as closed as it was.
  induction hwaiting : waitingIn panel log generalizing log h with
  | nil =>
      rw [receiptIn, hwaiting] at hnote
      exact congrArg (· :: []) hnote
  | cons m rest ih =>
      have hkept := (hk.use (.receive panel)).2
      have hrest := (hk.received hcreated hleft).1
      rw [← hnote, hwaiting] at hrest
      rw [receiptIn, hwaiting] at hnote
      have hcreated' : panel ∈ createdIn (log ++ [(h.use (.receive panel)).1]) := by
        rw [createdIn_append]
        exact List.mem_append_left _ hcreated
      have hleft' : hasLeftIn panel (log ++ [(h.use (.receive panel)).1]) = false := by
        rw [hnote, hasLeftIn_concat log rfl, hleft]
      have hclosed : isClosedIn panel (log ++ [(h.use (.receive panel)).1]) = isClosedIn panel log := by
        rw [hnote, isClosedIn_concat log rfl]
      have hdrained := ih hkept hcreated' hleft' (hkept.use_receive hcreated' hleft') hrest
      rw [hclosed] at hdrained
      rw [List.length_cons, List.replicate_succ, uses_cons, hdrained, hnote]
      rfl

/-- A session that is told that the panel is closed has received all that was or will be accepted. -/
theorem Keeps.accepted_of_ended (hk : Keeps log h) {u : Use}
    (hnote : (h.use u).1 = .received panel (some .ended)) (us : List Use) :
    isClosedIn panel log = true ∧
      acceptedIn panel (log ++ .received panel (some .ended) :: ((h.use u).2.uses us).1) =
        receivedIn panel log := by
  obtain ⟨hfollows, hkept⟩ := hk.use u
  rw [hnote, Note.Follows] at hfollows
  split at hfollows
  · rename_i hthere
    obtain ⟨hwaiting, hclosed⟩ := receiptIn_eq_ended (Option.some.inj hfollows).symm
    have hlater := hkept.accepted_of_closed (by rw [isClosedIn_append, hclosed, Bool.true_or]) us
    have hnow := hk.accepted_eq hthere.2
    rw [hwaiting, List.append_nil] at hnow
    refine ⟨hclosed, ?_⟩
    rw [List.append_cons, acceptedIn_append, acceptedIn_concat log rfl, hlater, hnow, List.append_nil]
  · cases hfollows

theorem Keeps.queue?_post (hk : Keeps log h) (m : Message) (hother : (h.post m).1 ≠ .ok panel) :
    (h.post m).2.board.queue? panel = h.board.queue? panel := by
  have hspares : (Note.posted m (h.post m).1).Spares panel := by
    refine ⟨?_, rfl, rfl, rfl⟩
    cases hresult : (h.post m).1 with
    | error => rfl
    | ok other =>
        have hne : other ≠ panel := fun heq => hother (hresult.trans (congrArg _ heq))
        simp [acceptedIn, hne]
  rw [(hk.post m).2.board, hspares.queueIn log rfl, hk.board]

/-- The terminal from its start on. Panels are numbered 1, 2, 3 and so on. A message goes to the newest
panel that is neither closed nor left by its session, if fewer than 16 wait there, and changes no other panel;
that a panel is closed is never the reason for which one is refused. The session of a panel receives what was
accepted for it, in that order; if it asks on it gets all that waits, closed or not, and only then, if the
panel is closed, it is told so. After that nothing more is accepted. -/
theorem panels_are_bounded_queues (settings : Settings) (installation : Path) (workspace : Option Path)
    (panelDirectory : Path) (settingsFile : Option Path) (us : List Use) :
    let log := ((fresh settings installation workspace panelDirectory settingsFile).uses us).1
    let h := ((fresh settings installation workspace panelDirectory settingsFile).uses us).2
    createdIn log = List.range' 1 (createdIn log).length ∧
    (∀ panel, h.board.queue? panel = queueIn panel log) ∧
    (∀ before note after, log = before ++ note :: after → note.Follows before) ∧
    (∀ m panel, (h.post m).1 ≠ .ok panel →
      (h.post m).2.board.queue? panel = h.board.queue? panel) ∧
    (∀ m panel, (h.post m).1 ≠ .error (.closed panel)) ∧
    (∀ panel, receivedIn panel log <+: acceptedIn panel log) ∧
    (∀ panel, hasLeftIn panel log = false →
      acceptedIn panel log = receivedIn panel log ++ waitingIn panel log) ∧
    (∀ panel, panel ∈ createdIn log → hasLeftIn panel log = false →
      (h.uses (List.replicate ((waitingIn panel log).length + 1) (.receive panel))).1 =
        (waitingIn panel log).map (fun m => .received panel (some (.message m))) ++
          [.received panel (some (if isClosedIn panel log then .ended else .empty))]) ∧
    (∀ panel before after, log = before ++ .received panel (some .ended) :: after →
      isClosedIn panel before = true ∧ acceptedIn panel log = receivedIn panel before) := by
  intro log h
  have hk : Keeps log h := (keeps_fresh ..).uses us
  refine ⟨hk.numbered, hk.board, ?_, ?_, ?_, hk.inOrder, ?_, ?_, ?_⟩
  · intro before note after hsplit
    obtain ⟨first, u, rest, rfl, rfl, -⟩ := uses_split hsplit
    exact (((keeps_fresh ..).uses first).use u).1
  · intro m panel hother
    exact hk.queue?_post m hother
  · intro m panel hrefused
    rw [(hk.post m).1, replyIn] at hrefused
    split at hrefused
    · cases hrefused
    · split at hrefused <;> cases hrefused
  · intro panel hleft
    exact hk.accepted_eq hleft
  · intro panel hcreated hleft
    exact hk.drains hcreated hleft
  · intro panel before after hsplit
    rw [hsplit]
    obtain ⟨first, u, rest, rfl, hnote, rfl⟩ := uses_split hsplit
    exact ((keeps_fresh ..).uses first).accepted_of_ended hnote rest

end ServerLink.Terminal.Host
