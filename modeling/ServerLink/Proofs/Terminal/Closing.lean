import Mathlib.Data.List.DropRight
import ServerLink.Proofs.Terminal.Panel

/-!
Which panel is closed. Sessions that have left are looked for when a message is posted, but not when a panel is
closed: the panel that is closed is the newest of those that are kept as open, and after a message these are the
panels to which messages may go.
-/

namespace ServerLink.Terminal.Host

open ServerLink.Storage ServerLink.Panel

def Note.isPost : Note → Bool
  | .posted .. => true
  | _ => false

def untilPost (log : List Note) : List Note :=
  log.rdropWhile fun note => !note.isPost

/-- Neither was a panel closed, nor had its session left when a message was last posted. -/
def isKeptIn (log : List Note) (panel : Nat) : Bool :=
  !isClosedIn panel log && !hasLeftIn panel (untilPost log)

/-- The panels that are kept as open, from the oldest to the newest. -/
def keptIn (log : List Note) : List Nat :=
  (createdIn log).filter (isKeptIn log)

/-- The panel for which a message was meant. -/
def addressed? : Except PostError Nat → Option Nat
  | .ok panel => some panel
  | .error .noPanel => none
  | .error (.closed panel) => some panel
  | .error (.full panel) => some panel

/-- The terminal after a log, with the panels that it keeps as open. -/
structure Stacks (log : List Note) (h : Host) : Prop extends Keeps log h where
  kept : h.openPanels = keptIn log

variable {log : List Note} {h : Host} {panel : Nat}

theorem hasLeftIn_of_untilPost (hleft : hasLeftIn panel (untilPost log) = true) :
    hasLeftIn panel log = true := by
  obtain ⟨rest, hrest⟩ : untilPost log <+: log := List.rdropWhile_prefix _ _
  rw [← hrest, hasLeftIn_append, hleft, Bool.true_or]

theorem untilPost_posted (log : List Note) (m : Message) (result : Except PostError Nat) :
    untilPost (log ++ [.posted m result]) = log ++ [.posted m result] :=
  List.rdropWhile_concat_neg _ _ _ Bool.false_ne_true

theorem untilPost_concat {note : Note} (hnote : note.isPost = false) :
    untilPost (log ++ [note]) = untilPost log :=
  List.rdropWhile_concat_pos _ _ _ (by rw [hnote]; rfl)

theorem liveIn_eq_filter_keptIn (log : List Note) :
    liveIn log = (keptIn log).filter fun panel => !hasLeftIn panel log := by
  rw [keptIn, List.filter_filter]
  refine List.filter_congr ?_
  intro panel _
  cases hleft : hasLeftIn panel log with
  | true => simp [isLiveIn, hleft]
  | false =>
      have hbefore : hasLeftIn panel (untilPost log) = false :=
        Bool.eq_false_iff.mpr fun hbefore =>
          Bool.false_ne_true (hleft.symm.trans (hasLeftIn_of_untilPost hbefore))
      simp [isLiveIn, isKeptIn, hleft, hbefore]

theorem addressed?_eq_none {result : Except PostError Nat} :
    addressed? result = none ↔ result = .error .noPanel := by
  rcases result with (_ | _ | _) | _ <;> simp [addressed?]

theorem addressed?_replyIn (log : List Note) : addressed? (replyIn log) = (liveIn log).getLast? := by
  unfold replyIn
  split
  · rename_i hnone
    exact hnone.symm
  · rename_i newest hnewest
    rw [hnewest]
    split <;> rfl

theorem stacks_fresh (settings : Settings) (installation : Path) (workspace : Option Path)
    (panelDirectory : Path) (settingsFile : Option Path) :
    Stacks [] (fresh settings installation workspace panelDirectory settingsFile) :=
  ⟨keeps_fresh settings installation workspace panelDirectory settingsFile, rfl⟩

theorem keptIn_concat {note : Note} (hcreated : createdIn [note] = [])
    (hnote : note.isPost = false) :
    keptIn (log ++ [note]) = (keptIn log).filter fun panel => !isClosedIn panel [note] := by
  rw [keptIn, keptIn, createdIn_concat log hcreated, List.filter_filter]
  refine List.filter_congr ?_
  intro panel _
  simp only [isKeptIn, isClosedIn_append, untilPost_concat hnote, Bool.not_or]
  ac_rfl

theorem keptIn_posted (log : List Note) (m : Message) (result : Except PostError Nat) :
    keptIn (log ++ [.posted m result]) = liveIn log := by
  have hnone : createdIn [Note.posted m result] = [] := rfl
  rw [keptIn, createdIn_concat log hnone]
  refine List.filter_congr ?_
  intro panel _
  rw [isKeptIn, untilPost_posted, isClosedIn_concat log rfl, hasLeftIn_concat log rfl, isLiveIn]

theorem Stacks.created (hs : Stacks log h) : Stacks (log ++ [.created h.nextPanel]) h.addPanel := by
  refine ⟨hs.toKeeps.created, ?_⟩
  have hclosed (panel : Nat) :
      isClosedIn panel (log ++ [.created h.nextPanel]) = isClosedIn panel log := isClosedIn_concat log rfl
  have hsame : isKeptIn (log ++ [.created h.nextPanel]) = isKeptIn log := by
    funext panel
    rw [isKeptIn, hclosed, untilPost_concat rfl, isKeptIn]
  obtain ⟨-, -, hnotClosed, hnotLeft⟩ := hs.unopened _ hs.toKeeps.next_notMem
  have hnew : isKeptIn log h.nextPanel = true := by
    have hbefore : hasLeftIn h.nextPanel (untilPost log) = false :=
      Bool.eq_false_iff.mpr fun hbefore =>
        Bool.false_ne_true (hnotLeft.symm.trans (hasLeftIn_of_untilPost hbefore))
    rw [isKeptIn, hnotClosed, hbefore]
    rfl
  have hcreated : createdIn (log ++ [.created h.nextPanel]) = createdIn log ++ [h.nextPanel] :=
    createdIn_append _ _
  rw [keptIn, hcreated, hsame, List.filter_append, List.filter_singleton, hnew, addPanel, hs.kept]
  rfl

theorem openPanels_post (h : Host) (m : Message) : (h.post m).2.openPanels = h.prune.openPanels := by
  simp only [post]
  split
  · rfl
  · split <;> rfl

theorem Stacks.post (hs : Stacks log h) (m : Message) :
    Stacks (log ++ [.posted m (h.post m).1]) (h.post m).2 := by
  refine ⟨(hs.toKeeps.post m).2, ?_⟩
  rw [openPanels_post, hs.toKeeps.prune.2, keptIn_posted]

theorem closeLatest_eq (h : Host) : h.closeLatest.1 = h.openPanels.getLast? ∧
    h.closeLatest.2.openPanels = h.openPanels.dropLast := by
  rw [closeLatest]
  cases hlast : h.openPanels.getLast? with
  | none => simp [List.getLast?_eq_none_iff.mp hlast]
  | some panel => exact ⟨rfl, rfl⟩

theorem Stacks.closeLatest (hs : Stacks log h) :
    Stacks (log ++ [.closed h.closeLatest.1]) h.closeLatest.2 := by
  refine ⟨hs.toKeeps.closeLatest.2, ?_⟩
  rw [keptIn_concat rfl rfl, ← hs.kept, (closeLatest_eq h).2, (closeLatest_eq h).1]
  have hdistinct := hs.distinct
  rcases List.eq_nil_or_concat h.openPanels with hopen | ⟨rest, newest, hopen⟩
  · rw [hopen]
    rfl
  · rw [List.concat_eq_append] at hopen
    rw [hopen, List.nodup_append] at hdistinct
    rw [hopen, List.dropLast_concat, List.getLast?_concat, List.filter_append]
    have hrest : rest.filter (fun panel => !isClosedIn panel [.closed (some newest)]) = rest := by
      refine List.filter_eq_self.mpr fun panel hpanel => ?_
      have hne := hdistinct.2.2 panel hpanel newest (List.mem_singleton_self newest)
      simp [isClosedIn, Ne.symm hne]
    rw [hrest]
    simp [isClosedIn]

theorem Stacks.receive (hs : Stacks log h) (panel : Nat) :
    Stacks (log ++ [.received panel (h.receive panel).1]) (h.receive panel).2 := by
  refine ⟨(hs.toKeeps.receive panel).2, hs.kept.trans ?_⟩
  rw [keptIn_concat rfl rfl]
  simp [isClosedIn]

theorem Stacks.dropSession (hs : Stacks log h) (panel : Nat) :
    Stacks (log ++ [.left panel (h.board.isAttended panel)]) (h.dropSession panel) := by
  refine ⟨(hs.toKeeps.dropSession panel).2, hs.kept.trans ?_⟩
  rw [keptIn_concat rfl rfl]
  simp [isClosedIn]

theorem Stacks.use (hs : Stacks log h) (u : Use) : Stacks (log ++ [(h.use u).1]) (h.use u).2 := by
  cases u with
  | create page tree => exact hs.created
  | post m => exact hs.post m
  | close => exact hs.closeLatest
  | receive panel => exact hs.receive panel
  | leave panel => exact hs.dropSession panel

theorem Stacks.uses (hs : Stacks log h) (us : List Use) :
    Stacks (log ++ (h.uses us).1) (h.uses us).2 := by
  induction us generalizing log h with
  | nil => simpa [Host.uses] using hs
  | cons u us ih =>
      rw [uses_cons, List.append_cons]
      exact ih (hs.use u)

/-- Closing again and again goes through the panels that are kept, from the newest on. -/
theorem closings (h : Host) {first rest : List Nat} (hopen : h.openPanels.reverse = first ++ rest) :
    (h.uses (List.replicate first.length .close)).1 = first.map fun panel => .closed (some panel) := by
  induction first generalizing h with
  | nil => rfl
  | cons panel first ih =>
      have hlast : h.closeLatest.1 = some panel := by
        rw [(closeLatest_eq h).1, List.getLast?_eq_head?_reverse, hopen]
        rfl
      have hothers : h.closeLatest.2.openPanels.reverse = first ++ rest := by
        rw [(closeLatest_eq h).2, ← List.tail_reverse, hopen]
        rfl
      rw [List.length_cons, List.replicate_succ, uses_cons, List.map_cons]
      exact congrArg₂ List.cons (congrArg Note.closed hlast) (ih h.closeLatest.2 hothers)

theorem Stacks.addressed? (hs : Stacks log h) (m : Message) :
    addressed? (h.post m).1 = (liveIn log).getLast? :=
  (congrArg Host.addressed? (hs.toKeeps.post m).1).trans (addressed?_replyIn log)

theorem Stacks.closes (hs : Stacks log h) : h.closeLatest.1 = (keptIn log).getLast? :=
  (closeLatest_eq h).1.trans (congrArg List.getLast? hs.kept)

/-- Newer than the newest panel to which messages may go are only panels, of those that are kept, whose
sessions have left. -/
theorem Stacks.newest_live (hs : Stacks log h) (hnewest : (liveIn log).getLast? = some panel) :
    ∃ gone rest, h.openPanels.reverse = gone ++ panel :: rest ∧
      ∀ other ∈ gone, panel < other ∧ hasLeftIn other log = true := by
  rw [liveIn_eq_filter_keptIn, List.getLast?_eq_head?_reverse, ← List.filter_reverse,
    List.head?_filter, List.find?_eq_some_iff_append] at hnewest
  obtain ⟨-, gone, rest, hkept, hgone⟩ := hnewest
  have hnumbers : (createdIn log).Pairwise (· < ·) := hs.numbered ▸ List.pairwise_lt_range'
  have hnewer : (keptIn log).reverse.Pairwise (fun newer older => older < newer) :=
    List.pairwise_reverse.mpr (hnumbers.sublist List.filter_sublist)
  rw [hkept, List.pairwise_append] at hnewer
  refine ⟨gone, rest, hs.kept ▸ hkept, fun other hother => ⟨?_, by simpa using hgone other hother⟩⟩
  exact hnewer.2.2 other hother panel (List.mem_cons_self ..)

/-- The panel that is closed is the one to which a message would go if the session of the newest panel that is
kept is there. -/
theorem newest_agrees_iff (log : List Note) : (keptIn log).getLast? = (liveIn log).getLast? ↔
    ∀ panel, (keptIn log).getLast? = some panel → hasLeftIn panel log = false := by
  constructor
  · intro hagree panel hnewest
    exact (mem_liveIn.mp (List.mem_of_getLast? (hagree.symm.trans hnewest))).2.2
  · intro hthere
    rcases List.eq_nil_or_concat (keptIn log) with hkept | ⟨rest, newest, hkept⟩
    · rw [liveIn_eq_filter_keptIn, hkept]
      rfl
    · rw [List.concat_eq_append] at hkept
      have hleft := hthere newest (by rw [hkept, List.getLast?_concat])
      rw [liveIn_eq_filter_keptIn, hkept, List.filter_append, List.filter_singleton, hleft]
      simp

/-- The terminal from its start on. A message is meant for the newest panel that is neither closed nor left by
its session, and the panel that is closed is the newest of those that are kept as open. These are the same
panel exactly as long as the session of the latter is there, so whenever no session has left since the last
message; and always directly after a message. Where they are not, closing goes first through panels, newer
than the one for which a message is meant, whose sessions have left. If nothing is closed, no message could go
anywhere. -/
theorem closes_where_it_posts_unless_left (settings : Settings) (installation : Path)
    (workspace : Option Path) (panelDirectory : Path) (settingsFile : Option Path) (us : List Use) :
    let log := ((fresh settings installation workspace panelDirectory settingsFile).uses us).1
    let h := ((fresh settings installation workspace panelDirectory settingsFile).uses us).2
    (∀ m, addressed? (h.post m).1 = (liveIn log).getLast?) ∧
    h.closeLatest.1 = (keptIn log).getLast? ∧
    (∀ m, h.closeLatest.1 = addressed? (h.post m).1 ↔
      ∀ panel, (keptIn log).getLast? = some panel → hasLeftIn panel log = false) ∧
    ((∀ panel, hasLeftIn panel log = hasLeftIn panel (untilPost log)) →
      ∀ m, h.closeLatest.1 = addressed? (h.post m).1 ∧
        (h.closeLatest.1 = none ↔ (h.post m).1 = .error .noPanel)) ∧
    (∀ m, (h.post m).2.closeLatest.1 = addressed? (h.post m).1) ∧
    (∀ m, h.closeLatest.1 = none → (h.post m).1 = .error .noPanel) ∧
    ∀ m panel, addressed? (h.post m).1 = some panel →
      ∃ gone, (∀ other ∈ gone, panel < other ∧ hasLeftIn other log = true) ∧
        (h.uses (List.replicate (gone.length + 1) .close)).1 =
          (gone ++ [panel]).map fun other => .closed (some other) := by
  intro log h
  have hs : Stacks log h := (stacks_fresh ..).uses us
  have hagree (m : Message) : h.closeLatest.1 = addressed? (h.post m).1 ↔
      ∀ panel, (keptIn log).getLast? = some panel → hasLeftIn panel log = false := by
    rw [hs.closes, hs.addressed?]
    exact newest_agrees_iff log
  refine ⟨hs.addressed?, hs.closes, hagree, ?_, ?_, ?_, ?_⟩
  · intro hsame m
    have heq : h.closeLatest.1 = addressed? (h.post m).1 := by
      refine (hagree m).mpr fun panel hnewest => ?_
      have hkept := (List.mem_filter.mp (List.mem_of_getLast? hnewest)).2
      rw [hsame]
      simp only [isKeptIn, Bool.and_eq_true, Bool.not_eq_true'] at hkept
      exact hkept.2
    exact ⟨heq, heq ▸ addressed?_eq_none⟩
  · intro m
    rw [(hs.post m).closes, keptIn_posted, hs.addressed?]
  · intro m hnone
    have hkept : keptIn log = [] := List.getLast?_eq_none_iff.mp (hs.closes.symm.trans hnone)
    rw [← addressed?_eq_none, hs.addressed?, liveIn_eq_filter_keptIn, hkept]
    rfl
  · intro m panel haddressed
    obtain ⟨gone, rest, hopen, hgone⟩ := hs.newest_live ((hs.addressed? m).symm.trans haddressed)
    refine ⟨gone, hgone, ?_⟩
    have hfirst : h.openPanels.reverse = (gone ++ [panel]) ++ rest := by rw [hopen, List.append_cons]
    have hclosed := closings h hfirst
    rwa [List.length_append] at hclosed

def leavesNewest : List Use :=
  let page : Page := ⟨"html", "Page", "<p></p>", true⟩
  [.create page {}, .create page {}, .leave 2]

theorem use_create (h : Host) (page : Page) (tree : Tree) :
    h.use (.create page tree) = (.created h.nextPanel, h.addPanel) := rfl

theorem left_panel_is_closed :
    let start := fresh {} ⟨[]⟩ none ⟨[]⟩ none
    let h := (start.uses leavesNewest).2
    h.closeLatest.1 = some 2 ∧ (∀ m, (h.post m).1 = .ok 1) ∧
      ¬ ∀ us m, (start.uses us).2.closeLatest.1 = addressed? ((start.uses us).2.post m).1 := by
  intro start h
  have hleft : h = start.addPanel.addPanel.dropSession 2 := by
    simp only [h, leavesNewest, uses, use_create]
    rfl
  have hclosed : h.closeLatest.1 = some 2 := by
    rw [hleft]
    rfl
  have hposted (m : Message) : (h.post m).1 = .ok 1 := by
    rw [hleft]
    rfl
  refine ⟨hclosed, hposted, fun hsame => ?_⟩
  have heq := hsame leavesNewest ⟨"", ""⟩
  change h.closeLatest.1 = addressed? (h.post _).1 at heq
  rw [hclosed, hposted] at heq
  cases heq

end ServerLink.Terminal.Host
