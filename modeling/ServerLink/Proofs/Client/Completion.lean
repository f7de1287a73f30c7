import Mathlib.Data.List.Nodup
import ServerLink.Client.Farewell
import ServerLink.Client.Handshake
import ServerLink.Proofs.Client.Await

/-!
How requests are completed. The first answer to a request that waits completes it, unless the request is given
up before. No answer completes two requests, none is completed twice, and what answers no request that waits
changes nothing.
-/

namespace ServerLink

theorem Json.nat?_eq_some_iff {j : Json} {n : Nat} : j.nat? = some n ↔ j = .nat n := by
  constructor
  · intro h
    unfold nat? at h
    split at h
    · rename_i i
      split at h
      · rename_i hi
        cases h
        simp [nat, int, Int.toNat_of_nonneg hi]
      · cases h
    · cases h
  · rintro rfl
    simp [nat?, nat, int]

namespace Rpc

theorem answersTo_iff_members {id : Nat} {frame : Json} :
    answersTo id frame = true ↔ frame.get? "id" = some (.nat id) ∧
      (∀ method, frame.get? "method" ≠ some (.string method)) ∧
      (frame.get? "result" ≠ none ∨ frame.get? "error" ≠ none) := by
  have hid : (frame.get? "id").bind Json.nat? = some id ↔ frame.get? "id" = some (.nat id) := by
    simp only [Option.bind_eq_some_iff, Json.nat?_eq_some_iff, exists_eq_right]
  have hmethod : method? frame = none ↔ ∀ method, frame.get? "method" ≠ some (.string method) := by
    unfold method?
    cases frame.get? "method" with
    | none => simp
    | some j => cases j <;> simp [Json.string?]
  simp only [answersTo, carriesAnswer, Bool.and_eq_true, beq_iff_eq, hid, Option.isNone_iff_eq_none,
    hmethod, Bool.or_eq_true, Option.isSome_iff_ne_none, and_assoc]

theorem ofFrame?_of_no_method {frame : Json} (h : method? frame = none) :
    Incoming.ofFrame? frame = none ∨ ∃ id, Incoming.ofFrame? frame = some (.response id frame) := by
  rw [Incoming.ofFrame?, ← method?, h]
  cases frame.get? "id" with
  | none => exact .inl rfl
  | some id =>
      dsimp only
      split
      · cases id.nat? with
        | none => exact .inl rfl
        | some n => exact .inr ⟨n, rfl⟩
      · exact .inl rfl

namespace Waiting

variable {w : Waiting} {id other : Nat} {state : State}

theorem state_of_mem (hmem : id ∈ w.pending) (hnone : ∀ body, (id, body) ∉ w.delivered) :
    w.state id = .awaited := by
  unfold Waiting.state
  split
  · rename_i n body hfind
    obtain rfl : n = id := by simpa using List.find?_some hfind
    exact absurd (List.mem_of_find?_eq_some hfind) (hnone body)
  · exact if_pos hmem

theorem fixed_withdraw (h : w.state id = .awaited) : (w.withdraw id).Fixed id .lost := by
  have hnot : id ∉ w.pending.filter (· != id) := by simp
  refine ⟨?_, hnot⟩
  unfold Waiting.state at h ⊢
  split at h
  · cases h
  · rename_i hnone
    rw [withdraw, hnone]
    exact if_neg hnot

theorem state_enter_of_ne (hne : other ≠ id) : (w.enter other).state id = w.state id := by
  simp [Waiting.state, enter, hne.symm]

namespace Fixed

theorem withdraw (h : w.Fixed id state) (other : Nat) : (w.withdraw other).Fixed id state := by
  refine ⟨?_, fun hmem => h.notMem (List.mem_of_mem_filter hmem)⟩
  rw [← h.state_eq]
  simp [Waiting.state, Waiting.withdraw, h.notMem]

theorem enter (h : w.Fixed id state) (hne : other ≠ id) : (w.enter other).Fixed id state := by
  refine ⟨(state_enter_of_ne hne).trans h.state_eq, ?_⟩
  rw [Waiting.enter, List.mem_cons, not_or]
  exact ⟨hne.symm, h.notMem⟩

end Fixed

end Waiting

end Rpc

namespace Client

inductive Happening where
  | dispatched (frame : Json)
  | entered
  /-- A request is given up: its time has run out, or it could not be written. -/
  | withdrawn (id : Nat)
  /-- All requests that wait are given up at the end of the stream. -/
  | givenUp

def happen (c : Client) : Happening → Client
  | .dispatched frame => (c.dispatch frame).1
  | .entered => c.enter.2
  | .withdrawn id => c.withdraw id
  | .givenUp => { c with waiting := c.waiting.clear }

def happenAll (c : Client) (events : List Happening) : Client :=
  events.foldl happen c

/-- What becomes of a request that waits: the first value that answers it completes it, unless it is given up
before. -/
def fate (id : Nat) : List Happening → Rpc.Waiting.State
  | [] => .awaited
  | .dispatched frame :: events => if Rpc.answersTo id frame then .answered frame else fate id events
  | .entered :: events => fate id events
  | .withdrawn other :: events => if other = id then .lost else fate id events
  | .givenUp :: _ => .lost

variable {c : Client} {heard : List Json}

/-- A value completes the one request that waits and that it answers. -/
theorem dispatch_of_answersTo {id : Nat} (hid : id ∈ c.waiting.pending) {frame : Json}
    (hanswers : Rpc.answersTo id frame = true) :
    c.dispatch frame = ({ c with waiting := {
      pending := c.waiting.pending.filter (· != id)
      delivered := (id, frame) :: c.waiting.delivered } }, []) := by
  rw [dispatch, Rpc.answersTo_iff.mp hanswers]
  simp [Rpc.Waiting.complete, hid]

theorem dispatch_of_not_answersTo {frame : Json}
    (hnot : ∀ id ∈ c.waiting.pending, Rpc.answersTo id frame = false) : (c.dispatch frame).1 = c := by
  unfold dispatch
  split
  · rfl
  · rename_i id body hresponse
    obtain rfl := body_of_response hresponse
    have hid : id ∉ c.waiting.pending := by
      intro hmem
      have hanswers := hnot id hmem
      rw [Rpc.answersTo_iff.mpr hresponse] at hanswers
      cases hanswers
    simp [Rpc.Waiting.complete, hid]
  · rfl
  · rfl

theorem acts_of_no_method {frame : Json} (hmethod : Rpc.method? frame = none) :
    (c.dispatch frame).2 = [] := by
  unfold dispatch
  rcases Rpc.ofFrame?_of_no_method hmethod with hnone | ⟨id, hresponse⟩
  · rw [hnone]
  · rw [hresponse]

theorem nextId_happen_le (c : Client) (event : Happening) : c.nextId ≤ (c.happen event).nextId := by
  cases event with
  | dispatched frame => exact Nat.le_of_eq (c.kept_dispatch frame).nextId.symm
  | entered => exact Nat.le_succ _
  | withdrawn => exact Nat.le_refl _
  | givenUp => exact Nat.le_refl _

theorem Sound.happen (hs : c.Sound heard) (event : Happening) : ∃ heard, (c.happen event).Sound heard := by
  cases event with
  | dispatched frame => exact ⟨_, hs.dispatch frame⟩
  | entered => exact ⟨_, hs.enter⟩
  | withdrawn id => exact ⟨_, hs.withdraw id⟩
  | givenUp => exact ⟨_, hs.of_pending rfl rfl nofun⟩

theorem Sound.awaited (hs : c.Sound heard) {id : Nat} (hid : id ∈ c.waiting.pending) :
    c.waiting.state id = .awaited :=
  Rpc.Waiting.state_of_mem hid fun body hbody => hs.settled id body hbody hid

theorem fixed_happen {id : Nat} {state : Rpc.Waiting.State} (h : c.waiting.Fixed id state)
    (hlt : id < c.nextId) (event : Happening) : (c.happen event).waiting.Fixed id state := by
  cases event with
  | dispatched frame => exact fixed_dispatch h frame
  | entered => exact h.enter (Nat.ne_of_gt hlt)
  | withdrawn other => exact h.withdraw other
  | givenUp => exact h.clear

theorem happenAll_append (c : Client) (events more : List Happening) :
    c.happenAll (events ++ more) = (c.happenAll events).happenAll more :=
  List.foldl_append

theorem Sound.happenAll (hs : c.Sound heard) (events : List Happening) :
    ∃ heard, (c.happenAll events).Sound heard := by
  induction events generalizing c heard with
  | nil => exact ⟨heard, hs⟩
  | cons event events ih =>
      obtain ⟨heard, hs⟩ := hs.happen event
      exact ih hs

theorem state_of_fixed {id : Nat} {state : Rpc.Waiting.State} (h : c.waiting.Fixed id state)
    (hlt : id < c.nextId) (events : List Happening) : (c.happenAll events).waiting.state id = state := by
  induction events generalizing c with
  | nil => exact h.state_eq
  | cons event events ih =>
      exact ih (fixed_happen h hlt event) (Nat.lt_of_lt_of_le hlt (c.nextId_happen_le event))

/-- A request that waits meets its fate. -/
theorem state_happenAll (hs : c.Sound heard) {id : Nat} (hid : id ∈ c.waiting.pending)
    (events : List Happening) : (c.happenAll events).waiting.state id = fate id events := by
  induction events generalizing c heard with
  | nil => exact hs.awaited hid
  | cons event events ih =>
      have hlt := hs.waiting id hid
      have hnext := Nat.lt_of_lt_of_le hlt (c.nextId_happen_le event)
      obtain ⟨heard', hs'⟩ := hs.happen event
      change ((c.happen event).happenAll events).waiting.state id = _
      cases event with
      | dispatched frame =>
          simp only [fate]
          by_cases hanswers : Rpc.answersTo id frame = true
          · rw [if_pos hanswers]
            refine state_of_fixed ?_ hnext events
            rw [happen, dispatch, Rpc.answersTo_iff.mp hanswers]
            exact Rpc.Waiting.fixed_complete (hs.awaited hid) frame
          · rw [if_neg hanswers]
            refine ih hs' ?_
            -- Even where the value completes another request, this one goes on waiting.
            by_cases hother : ∃ other ∈ c.waiting.pending, Rpc.answersTo other frame = true
            · obtain ⟨other, hmem, hother⟩ := hother
              rw [happen, dispatch_of_answersTo hmem hother]
              refine List.mem_filter.mpr ⟨hid, ?_⟩
              rw [bne_iff_ne]
              rintro rfl
              exact hanswers hother
            · have hsame : c.happen (.dispatched frame) = c :=
                dispatch_of_not_answersTo (by simpa using hother)
              rwa [hsame]
      | entered => exact ih hs' (List.mem_cons_of_mem _ hid)
      | withdrawn other =>
          simp only [fate]
          by_cases hother : other = id
          · subst hother
            rw [if_pos rfl]
            exact state_of_fixed (Rpc.Waiting.fixed_withdraw (hs.awaited hid)) hnext events
          · rw [if_neg hother]
            exact ih hs' (List.mem_filter.mpr ⟨hid, by simpa using Ne.symm hother⟩)
      | givenUp => exact state_of_fixed (Rpc.Waiting.fixed_clear (hs.awaited hid)) hnext events

/-- A happening completes no request, or one that waited, and that by the value that is taken. -/
theorem delivered_happen (c : Client) (event : Happening) :
    (c.happen event).waiting.delivered = c.waiting.delivered ∨
      ∃ id frame, id ∈ c.waiting.pending ∧ event = .dispatched frame ∧
        Rpc.answersTo id frame = true ∧
        (c.happen event).waiting.delivered = (id, frame) :: c.waiting.delivered := by
  cases event with
  | dispatched frame =>
      by_cases hanswered : ∃ id ∈ c.waiting.pending, Rpc.answersTo id frame = true
      · obtain ⟨id, hid, hanswers⟩ := hanswered
        refine .inr ⟨id, frame, hid, rfl, hanswers, ?_⟩
        rw [happen, dispatch_of_answersTo hid hanswers]
      · have hsame : c.happen (.dispatched frame) = c :=
          dispatch_of_not_answersTo (by simpa using hanswered)
        exact .inl (by rw [hsame])
  | entered | withdrawn | givenUp => exact .inl rfl

theorem delivered_happenAll (hs : c.Sound heard) (events : List Happening) :
    ∃ new, (c.happenAll events).waiting.delivered = new ++ c.waiting.delivered ∧
      (new.map Prod.fst).Nodup ∧
      ∀ done ∈ new, (∀ body, (done.1, body) ∉ c.waiting.delivered) ∧
        .dispatched done.2 ∈ events ∧ Rpc.answersTo done.1 done.2 = true := by
  induction events generalizing c heard with
  | nil => exact ⟨[], rfl, List.nodup_nil, nofun⟩
  | cons event events ih =>
      obtain ⟨heard', hs'⟩ := hs.happen event
      obtain ⟨new, hnew, honce, hdone⟩ := ih hs'
      rcases c.delivered_happen event with hsame | ⟨id, frame, hid, rfl, hanswers, hone⟩
      · rw [hsame] at hnew hdone
        refine ⟨new, hnew, honce, fun done hmem => ?_⟩
        obtain ⟨hfresh, htaken, hanswers⟩ := hdone done hmem
        exact ⟨hfresh, List.mem_cons_of_mem _ htaken, hanswers⟩
      · rw [hone] at hnew hdone
        refine ⟨new ++ [(id, frame)], by rwa [List.append_assoc], ?_, ?_⟩
        · rw [List.map_append, List.nodup_append]
          refine ⟨honce, List.nodup_singleton _, ?_⟩
          intro n hn m hm
          obtain ⟨done, hmem, rfl⟩ := List.mem_map.mp hn
          obtain rfl : m = id := by simpa using hm
          rintro rfl
          exact (hdone done hmem).1 frame List.mem_cons_self
        · refine List.forall_mem_append.mpr ⟨fun done hmem => ?_, ?_⟩
          · obtain ⟨hfresh, htaken, hanswers⟩ := hdone done hmem
            exact ⟨fun body hbody => hfresh body (List.mem_cons_of_mem _ hbody),
              List.mem_cons_of_mem _ htaken, hanswers⟩
          · intro done hmem
            obtain rfl := List.mem_singleton.mp hmem
            exact ⟨fun body hbody => hs.settled id body hbody hid, List.mem_cons_self, hanswers⟩

/-- A client that reads values off its stream, comes to its end or to what cannot be read, and does what is to
be done then. -/
def readOut (c : Client) (frames : List Json) (last : Wire.Reading) : Client :=
  ((frames.foldl (fun c frame => (c.arrive (.frame frame)).1) c).arrive last).1.wind.wind

theorem inflow_dispatch (c : Client) (frame : Json) : (c.dispatch frame).1.inflow = c.inflow := by
  unfold dispatch
  split <;> rfl

theorem foldl_arrive (hrunning : c.inflow = .running) (frames : List Json) :
    frames.foldl (fun c frame => (c.arrive (.frame frame)).1) c =
      c.happenAll (frames.map .dispatched) ∧
    (c.happenAll (frames.map .dispatched)).inflow = .running := by
  induction frames generalizing c with
  | nil => exact ⟨rfl, hrunning⟩
  | cons frame frames ih =>
      rw [List.foldl_cons, arrive_of_running hrunning]
      exact ih ((c.inflow_dispatch frame).trans hrunning)

theorem readOut_eq (hrunning : c.inflow = .running) (frames : List Json) {last : Wire.Reading}
    (hlast : ∀ frame, last ≠ .frame frame) :
    c.readOut frames last =
      { c.happenAll (frames.map .dispatched ++ [.givenUp]) with inflow := .lost } := by
  obtain ⟨hread, hstill⟩ := foldl_arrive hrunning frames
  have hended : ((c.happenAll (frames.map .dispatched)).arrive last).1 =
      { c.happenAll (frames.map .dispatched) with inflow := .ended } := by
    cases last with
    | frame frame => exact absurd rfl (hlast frame)
    | error => simp [arrive, hstill]
    | ended => simp [arrive, hstill]
  rw [readOut, hread, hended, happenAll_append]
  rfl

theorem fate_givenUp (id : Nat) (frames : List Json) :
    fate id (frames.map .dispatched ++ [.givenUp]) =
      match frames.find? (Rpc.answersTo id) with
      | some frame => .answered frame
      | none => .lost := by
  induction frames with
  | nil => rfl
  | cons frame frames ih =>
      simp only [List.map_cons, List.cons_append, fate, List.find?_cons]
      cases Rpc.answersTo id frame with
      | true => rfl
      | false => exact ih

/-- How requests are completed, whichever wait and whatever happens. Each of them, and each that is entered on
the way, gets the first value that answers it, whole, unless it is given up before, and whoever awaits it goes
on with that value even if the time has run out. Each completion is by a value that was taken and answers the
request, and no request has two. One value completes one request at most, and leaves everything as it is where
none that it answers waits. At the end of the stream the answers that have been read are there, and all other
requests are given up. -/
theorem first_answer_completes (hs : c.Sound heard) (events : List Happening) :
    (∀ id frame, Rpc.answersTo id frame = true ↔ frame.get? "id" = some (.nat id) ∧
      (∀ method, frame.get? "method" ≠ some (.string method)) ∧
      (frame.get? "result" ≠ none ∨ frame.get? "error" ≠ none)) ∧
    (∀ id ∈ c.waiting.pending, (c.happenAll events).waiting.state id = fate id events) ∧
    (∀ before after, events = before ++ .entered :: after →
      (c.happenAll events).waiting.state (c.happenAll before).nextId =
        fate (c.happenAll before).nextId after) ∧
    (∀ id frame, (c.happenAll events).waiting.state id = .answered frame →
      (Handshake.await id).step (c.happenAll events) = (.next (c.happenAll events) (.settle frame), []) ∧
      (Farewell.await id).step (c.happenAll events) =
        (.next (c.happenAll events) (if (frame.get? "error").isSome then .hangUp else .exit), []) ∧
      (Handshake.await id).expire (c.happenAll events) = none ∧
      (Farewell.await id).expire (c.happenAll events) = none) ∧
    (∃ new, (c.happenAll events).waiting.delivered = new ++ c.waiting.delivered ∧
      (new.map Prod.fst).Nodup ∧
      ∀ done ∈ new, (∀ body, (done.1, body) ∉ c.waiting.delivered) ∧
        .dispatched done.2 ∈ events ∧ Rpc.answersTo done.1 done.2 = true) ∧
    (∀ frame, (∃ id ∈ c.waiting.pending, Rpc.answersTo id frame = true ∧
        c.dispatch frame = ({ c with waiting := {
          pending := c.waiting.pending.filter (· != id)
          delivered := (id, frame) :: c.waiting.delivered } }, [])) ∨
      (∀ id ∈ c.waiting.pending, Rpc.answersTo id frame = false) ∧ (c.dispatch frame).1 = c ∧
        (Rpc.method? frame = none → c.dispatch frame = (c, []))) ∧
    (∀ frames last, c.inflow = .running → (∀ frame, last ≠ .frame frame) →
      (c.readOut frames last).inflow = .lost ∧ (c.readOut frames last).waiting.pending = [] ∧
      ∀ id ∈ c.waiting.pending, (c.readOut frames last).waiting.state id =
        match frames.find? (Rpc.answersTo id) with
        | some frame => .answered frame
        | none => .lost) := by
  refine ⟨fun _ _ => Rpc.answersTo_iff_members, fun _ hid => state_happenAll hs hid events, ?_, ?_,
    delivered_happenAll hs events, ?_, ?_⟩
  · rintro before after rfl
    obtain ⟨heard', hs'⟩ := hs.happenAll before
    rw [happenAll_append]
    exact state_happenAll hs'.enter List.mem_cons_self after
  · intro id frame hanswered
    simp only [Handshake.step, Farewell.step, Handshake.expire, Farewell.expire, hanswered]
    exact ⟨trivial, trivial, by split <;> simp_all, trivial⟩
  · intro frame
    by_cases hanswered : ∃ id ∈ c.waiting.pending, Rpc.answersTo id frame = true
    · obtain ⟨id, hid, hanswers⟩ := hanswered
      exact .inl ⟨id, hid, hanswers, dispatch_of_answersTo hid hanswers⟩
    · have hnot : ∀ id ∈ c.waiting.pending, Rpc.answersTo id frame = false := by simpa using hanswered
      have hsame := dispatch_of_not_answersTo hnot
      exact .inr ⟨hnot, hsame, fun hmethod => Prod.ext hsame (acts_of_no_method hmethod)⟩
  · intro frames last hrunning hlast
    rw [readOut_eq hrunning frames hlast]
    refine ⟨rfl, ?_, fun id hid => ?_⟩
    · rw [happenAll_append]
      rfl
    · rw [← fate_givenUp]
      exact state_happenAll hs hid _

def asking : Client :=
  ({ options := {}, features := [] } : Client).enter.2.enter.2

def answerOf (id : Json) (result : Nat) : Json :=
  .object [("id", id), ("result", .nat result)]

/-- The identifier as a text and a request with it do not count, nor does a second answer. -/
def exchange : List Happening :=
  [.dispatched (answerOf (.string "1") 4),
    .dispatched (.object [("id", .nat 1), ("method", .string "window/ask"), ("result", .nat 4)]),
    .dispatched (answerOf (.nat 1) 5), .entered, .withdrawn 2, .dispatched (answerOf (.nat 1) 6),
    .dispatched (answerOf (.nat 2) 7), .dispatched (answerOf (.nat 3) 8), .givenUp]

theorem first_answer_completes_of_three :
    asking.waiting.pending = [2, 1] ∧
      (asking.happenAll exchange).waiting.state 1 = .answered (answerOf (.nat 1) 5) ∧
      (asking.happenAll exchange).waiting.state 2 = .lost ∧
      (asking.happenAll exchange).waiting.state 3 = .answered (answerOf (.nat 3) 8) ∧
      (asking.readOut [answerOf (.nat 2) 7] .ended).waiting.state 2 = .answered (answerOf (.nat 2) 7) ∧
      (asking.readOut [answerOf (.nat 2) 7] .ended).waiting.state 1 = .lost := by
  have hsound : asking.Sound [] := (sound_fresh {} []).enter.enter
  obtain ⟨-, hstates, hentered, -, -, -, hread⟩ := first_answer_completes hsound exchange
  have hone : 1 ∈ asking.waiting.pending := by decide
  have htwo : 2 ∈ asking.waiting.pending := by decide
  obtain ⟨-, -, hanswers⟩ := hread [answerOf (.nat 2) 7] .ended rfl nofun
  exact ⟨rfl, hstates 1 hone, hstates 2 htwo, hentered (exchange.take 3) (exchange.drop 4) rfl,
    hanswers 2 htwo, hanswers 1 hone⟩

end Client

end ServerLink
