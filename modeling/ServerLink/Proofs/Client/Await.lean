import ServerLink.Proofs.Client.Reply

namespace ServerLink

namespace Rpc

/-- Whether a value answers the request with an identifier: it has that identifier, names no method, and has
a result or an error. -/
def answersTo (id : Nat) (frame : Json) : Bool :=
  (frame.get? "id").bind Json.nat? == some id && (method? frame).isNone && carriesAnswer frame

theorem answersTo_iff {id : Nat} {frame : Json} :
    answersTo id frame = true ↔ Incoming.ofFrame? frame = some (.response id frame) := by
  unfold answersTo Incoming.ofFrame?
  rw [← method?]
  cases hid : frame.get? "id" with
  | none => cases method? frame <;> simp
  | some value =>
      cases method? frame with
      | some method => simp
      | none => cases carriesAnswer frame <;> simp

namespace Waiting

/-- What has become of a request is not to change. -/
structure Fixed (w : Waiting) (id : Nat) (state : State) : Prop where
  state_eq : w.state id = state
  notMem : id ∉ w.pending

variable {w : Waiting} {id other : Nat} {state : State}

theorem mem_of_awaited (h : w.state id = .awaited) : id ∈ w.pending := by
  unfold Waiting.state at h
  split at h
  · cases h
  · split at h
    · assumption
    · cases h

theorem fixed_complete (h : w.state id = .awaited) (body : Json) :
    (w.complete id body).Fixed id (.answered body) := by
  rw [complete, if_pos (mem_of_awaited h)]
  constructor
  · simp [Waiting.state]
  · simp

theorem fixed_clear (h : w.state id = .awaited) : w.clear.Fixed id .lost := by
  refine ⟨?_, List.not_mem_nil⟩
  unfold Waiting.state at h ⊢
  split at h
  · cases h
  · rename_i hnone
    rw [clear, hnone]
    exact if_neg List.not_mem_nil

theorem state_complete_of_ne (hne : other ≠ id) (body : Json) :
    (w.complete other body).state id = w.state id := by
  unfold complete
  split
  · simp [Waiting.state, hne, hne.symm]
  · rfl

namespace Fixed

theorem complete (h : w.Fixed id state) (other : Nat) (body : Json) :
    (w.complete other body).Fixed id state := by
  by_cases hne : other = id
  · subst hne
    rwa [Waiting.complete, if_neg h.notMem]
  · refine ⟨(state_complete_of_ne hne body).trans h.state_eq, ?_⟩
    unfold Waiting.complete
    split
    · exact fun hmem => h.notMem (List.mem_of_mem_filter hmem)
    · exact h.notMem

theorem clear (h : w.Fixed id state) : w.clear.Fixed id state := by
  refine ⟨?_, List.not_mem_nil⟩
  rw [← h.state_eq]
  unfold Waiting.state
  rw [if_neg h.notMem]
  simp [Waiting.clear]

end Fixed

end Waiting

end Rpc

namespace Client

variable {c : Client} {id : Nat} {state : Rpc.Waiting.State}

theorem fixed_dispatch (h : c.waiting.Fixed id state) (frame : Json) :
    (c.dispatch frame).1.waiting.Fixed id state := by
  unfold dispatch
  split
  · exact h
  · exact h.complete _ _
  · exact h
  · exact h

theorem fixed_arrive (h : c.waiting.Fixed id state) (r : Wire.Reading) :
    (c.arrive r).1.waiting.Fixed id state := by
  unfold arrive
  split
  · exact fixed_dispatch h _
  · exact h
  · exact h
  · exact h

theorem fixed_wind (h : c.waiting.Fixed id state) : c.wind.waiting.Fixed id state := by
  unfold wind
  split
  · exact h.clear
  · exact h
  · exact h

theorem arrive_of_running (h : c.inflow = .running) (frame : Json) :
    c.arrive (.frame frame) = c.dispatch frame := by
  simp [arrive, h]

theorem arrive_of_ended (h : c.inflow = .ended) (r : Wire.Reading) : c.arrive r = (c, []) := by
  simp [arrive, h]

theorem arrive_eq (c : Client) (r : Wire.Reading) :
    (c.arrive r).1 = { c with waiting := (c.arrive r).1.waiting, inflow := (c.arrive r).1.inflow } := by
  unfold arrive
  split
  · unfold dispatch
    split <;> rfl
  · rfl
  · rfl
  · rfl

theorem wind_eq (c : Client) : c.wind = { c with waiting := c.wind.waiting, inflow := c.wind.inflow } := by
  unfold wind
  split <;> rfl

/-- A request awaits its answer, while the stream is read or has come to its end. -/
structure Awaits (c : Client) (id : Nat) (reading : Bool) : Prop where
  awaited : c.waiting.state id = .awaited
  inflow : c.inflow = if reading then .running else .ended

namespace Awaits

variable {reading : Bool}

theorem answered (h : c.Awaits id true) {frame : Json} (hanswer : Rpc.answersTo id frame = true) :
    (c.arrive (.frame frame)).1.waiting.Fixed id (.answered frame) := by
  rw [arrive_of_running h.inflow, dispatch, Rpc.answersTo_iff.mp hanswer]
  exact Rpc.Waiting.fixed_complete h.awaited frame

theorem passed (h : c.Awaits id reading) {frame : Json}
    (hother : reading = true → Rpc.answersTo id frame = false) :
    (c.arrive (.frame frame)).1.Awaits id reading := by
  cases reading with
  | false => rwa [arrive_of_ended h.inflow]
  | true =>
      rw [arrive_of_running h.inflow]
      unfold dispatch
      split
      · exact h
      · rename_i other body hresponse
        have hne : other ≠ id := by
          rintro rfl
          rw [body_of_response hresponse] at hresponse
          rw [Rpc.answersTo_iff.mpr hresponse] at hother
          cases hother rfl
        exact ⟨(Rpc.Waiting.state_complete_of_ne hne body).trans h.awaited, h.inflow⟩
      · exact h
      · exact h

theorem ended (h : c.Awaits id reading) {r : Wire.Reading} (hr : ∀ frame, r ≠ .frame frame) :
    (c.arrive r).1.Awaits id false := by
  cases reading with
  | false => rwa [arrive_of_ended h.inflow]
  | true =>
      have hrunning : c.inflow = .running := h.inflow
      have harrive : c.arrive r = ({ c with inflow := .ended }, []) := by
        cases r with
        | frame frame => exact absurd rfl (hr frame)
        | _ => simp [arrive, hrunning]
      rw [harrive]
      exact ⟨h.awaited, rfl⟩

theorem wind_of_reading (h : c.Awaits id true) : c.wind = c := by
  rw [wind, h.inflow]
  rfl

theorem wind_of_ended (h : c.Awaits id false) : c.wind.waiting.Fixed id .lost := by
  rw [wind, h.inflow]
  exact Rpc.Waiting.fixed_clear h.awaited

end Awaits

end Client

end ServerLink
