import ServerLink.Panel.Board

namespace ServerLink.Panel.Board

variable {b : Board} {panel : Nat} {q : Queue}

theorem queue?_add (b : Board) (panel other capacity : Nat) :
    (b.add panel capacity).queue? other = if other = panel then some { capacity } else b.queue? other :=
  b.queue?_set panel other _

theorem queue?_close (b : Board) (panel other : Nat) :
    (b.close panel).queue? other =
      if other = panel then (b.queue? panel).map Queue.close else b.queue? other := by
  unfold close
  split
  · rename_i hnone
    split
    · rename_i hother
      simp [hother, hnone]
    · rfl
  · rename_i q hq
    simp [queue?_set, hq]

theorem queue?_abandon (b : Board) (panel other : Nat) :
    (b.abandon panel).queue? other =
      if other = panel then (b.queue? panel).map Queue.abandon else b.queue? other := by
  unfold abandon
  split
  · rename_i hnone
    split
    · rename_i hother
      simp [hother, hnone]
    · rfl
  · rename_i q hq
    simp [queue?_set, hq]

theorem isAttended_of_queue? (hq : b.queue? panel = some q) :
    b.isAttended panel = !q.abandoned := by
  simp [isAttended, hq]

theorem post_of_queue? (hq : b.queue? panel = some q) (m : Message) :
    b.post panel m =
      if q.abandoned then .error .abandoned
      else if q.waiting.length < q.capacity then
        .ok (b.set panel { q with waiting := q.waiting ++ [m] })
      else .error .full := by
  simp only [post, hq, Queue.post]
  split
  · rfl
  · split <;> rfl

theorem receive_of_queue? (hq : b.queue? panel = some q) :
    b.receive panel =
      if q.abandoned then (none, b) else (some q.receive.1, b.set panel q.receive.2) := by
  simp only [receive, hq]

theorem receive_of_none (hnone : b.queue? panel = none) : b.receive panel = (none, b) := by
  simp only [receive, hnone]

theorem relay_of_none (hnone : b.queue? panel = none) : b.relay panel = (none, b) := by
  simp only [relay, receive_of_none hnone]

theorem relay_of_queue? (hq : b.queue? panel = some q) (hattended : q.abandoned = false) :
    b.relay panel = (q.waiting.head?.bind Message.request?,
      b.set panel { q with waiting := q.waiting.tail }) := by
  obtain ⟨capacity, waiting, closed, abandoned⟩ := q
  obtain rfl : abandoned = false := hattended
  simp only [relay, receive_of_queue? hq, Queue.receive]
  cases waiting with
  | nil => cases closed <;> rfl
  | cons m ms => rfl

def waiting (b : Board) (panel : Nat) : List Message :=
  ((b.queue? panel).map (·.waiting)).getD []

theorem waiting_of_queue? (hq : b.queue? panel = some q) : b.waiting panel = q.waiting := by
  simp [waiting, hq]

theorem waiting_set (b : Board) (panel other : Nat) (q : Queue) :
    (b.set panel q).waiting other = if other = panel then q.waiting else b.waiting other := by
  rw [waiting, queue?_set]
  split <;> rfl

theorem waiting_close (b : Board) (panel other : Nat) : (b.close panel).waiting other = b.waiting other := by
  rw [waiting, queue?_close]
  split
  · rename_i hother
    subst hother
    cases hq : b.queue? other <;> simp [waiting, hq, Queue.close]
  · rfl

end ServerLink.Panel.Board
