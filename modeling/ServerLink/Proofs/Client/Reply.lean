import Mathlib.Data.List.Forall2
import ServerLink.Proofs.Client.Conversation

namespace ServerLink

namespace Rpc

def method? (frame : Json) : Option String :=
  (frame.get? "method").bind Json.string?

/-- Whether a value asks for a reply. Its identifier may be any value, `null` too. -/
def isRequest (frame : Json) : Bool :=
  (frame.get? "id").isSome && (method? frame).isSome

/-- The methods for which the server is given a result. -/
def servedMethods : List String :=
  ["client/registerCapability", "client/unregisterCapability", "workspace/configuration"]

def asksServed (frame : Json) : Bool :=
  (method? frame).any (· ∈ servedMethods)

/-- A reply that belongs to a request. -/
structure Answers (request reply : Json) : Prop where
  identifier : reply.get? "id" = request.get? "id"
  result : (reply.get? "result").isSome = asksServed request
  error : (reply.get? "error").isSome = !asksServed request
  code : ∀ error, reply.get? "error" = some error → error.get? "code" = some (.int (-32601))

theorem get?_reply (id : Json) (answer : Answer) (key : String) :
    (reply id answer).get? key =
      if key = answer.member.1 then some answer.member.2
      else if key = "id" then some id
      else if key = "jsonrpc" then some (.string "2.0")
      else none := by
  simp [reply, envelope, Json.ofFields, Json.get?, Assoc.ofList, Assoc.find?_insert]

theorem code_unknownMethod (method : String) :
    (Answer.unknownMethod method).member.2.get? "code" = some (.int (-32601)) := by
  simp [Answer.member, unknownMethodCode, Json.ofFields, Json.get?, Assoc.ofList, Assoc.find?_insert]

theorem ofFrame?_of_isRequest {frame : Json} (h : isRequest frame = true) :
    ∃ id method, frame.get? "id" = some id ∧ method? frame = some method ∧
      Incoming.ofFrame? frame = some (.request id method (frame.get? "params")) := by
  obtain ⟨hid, hmethod⟩ := Bool.and_eq_true_iff.mp h
  obtain ⟨id, hid⟩ := Option.isSome_iff_exists.mp hid
  obtain ⟨method, hmethod⟩ := Option.isSome_iff_exists.mp hmethod
  refine ⟨id, method, hid, hmethod, ?_⟩
  rw [method?] at hmethod
  simp only [Incoming.ofFrame?, hid, hmethod]

theorem isRequest_of_ofFrame? {frame id : Json} {method : String} {params : Option Json}
    (h : Incoming.ofFrame? frame = some (.request id method params)) : isRequest frame = true := by
  unfold Incoming.ofFrame? at h
  split at h
  · rename_i hid hmethod
    simp [isRequest, method?, hid, hmethod]
  · cases h
  · split at h
    · obtain ⟨n, -, hn⟩ := Option.map_eq_some_iff.mp h
      cases hn
    · cases h
  · cases h

end Rpc

namespace Client

def written (acts : List Act) : List Json :=
  acts.filterMap fun
    | .wrote m => some m.toJson
    | _ => none

def replies (acts : List Act) : List Json :=
  acts.filterMap fun
    | .wrote (.reply id answer) => some (Rpc.reply id answer)
    | _ => none

def dispatchAll (c : Client) : List Json → Client × List Act
  | [] => (c, [])
  | frame :: frames =>
      let (c, acts) := c.dispatch frame
      let (c, more) := c.dispatchAll frames
      (c, acts ++ more)

@[simp] theorem written_append (acts more : List Act) :
    written (acts ++ more) = written acts ++ written more :=
  List.filterMap_append

@[simp] theorem replies_append (acts more : List Act) :
    replies (acts ++ more) = replies acts ++ replies more :=
  List.filterMap_append

theorem written_of_aside {acts : List Act} (h : ∀ act ∈ acts, act.IsAside) :
    written acts = replies acts := by
  refine List.filterMap_congr fun act hact => ?_
  have hsaid := (h act hact).1
  cases act with
  | wrote m =>
      cases m with
      | reply => rfl
      | _ => cases hsaid
  | _ => rfl

theorem answer_of_mem (c : Client) {method : String} (h : method ∈ Rpc.servedMethods)
    (params : Option Json) : ∃ value, (c.answer method params).2 = .result value := by
  simp only [Rpc.servedMethods, List.mem_cons, List.not_mem_nil, or_false] at h
  rcases h with rfl | rfl | rfl
  · exact ⟨_, rfl⟩
  · exact ⟨_, rfl⟩
  · exact ⟨_, rfl⟩

theorem answer_of_notMem (c : Client) {method : String} (h : method ∉ Rpc.servedMethods)
    (params : Option Json) : c.answer method params = ([], .unknownMethod method) := by
  simp only [Rpc.servedMethods, List.mem_cons, List.not_mem_nil, or_false, not_or] at h
  obtain ⟨hregister, hunregister, hconfiguration⟩ := h
  rw [answer, if_neg hregister, if_neg hunregister, if_neg hconfiguration]

theorem answers_reply (c : Client) {frame id : Json} {method : String}
    (hid : frame.get? "id" = some id) (hmethod : Rpc.method? frame = some method)
    (params : Option Json) : Rpc.Answers frame (Rpc.reply id (c.answer method params).2) := by
  by_cases hserved : method ∈ Rpc.servedMethods
  · have hasks : Rpc.asksServed frame = true := by
      simp [Rpc.asksServed, hmethod, hserved]
    obtain ⟨value, hvalue⟩ := c.answer_of_mem hserved params
    rw [hvalue]
    constructor
    · rw [hid, Rpc.get?_reply]
      rfl
    · rw [hasks, Rpc.get?_reply]
      rfl
    · rw [hasks, Rpc.get?_reply]
      rfl
    · intro error herror
      rw [Rpc.get?_reply] at herror
      cases herror
  · have hasks : Rpc.asksServed frame = false := by
      simp [Rpc.asksServed, hmethod, hserved]
    rw [c.answer_of_notMem hserved params]
    constructor
    · rw [hid, Rpc.get?_reply]
      rfl
    · rw [hasks, Rpc.get?_reply]
      rfl
    · rw [hasks, Rpc.get?_reply]
      rfl
    · intro error herror
      rw [Rpc.get?_reply] at herror
      cases herror
      exact Rpc.code_unknownMethod method

theorem replies_answer (c : Client) (method : String) (params : Option Json) :
    replies (c.answer method params).1 = [] := by
  unfold answer
  split
  · simp [replies, callTakers, List.filterMap_flatMap, List.filterMap_map]
  · split
    · simp [replies, callTakers, List.filterMap_flatMap, List.filterMap_map]
    · split <;> rfl

theorem replies_heed (c : Client) (method : String) (params : Option Json) :
    replies (c.heed method params) = [] := by
  unfold heed
  split
  · cases Panel.htmlOfParams? params <;> rfl
  · rfl
  · cases logLine? method params <;> rfl

theorem replies_dispatch_of_not_request (c : Client) {frame : Json}
    (h : Rpc.isRequest frame = false) : replies (c.dispatch frame).2 = [] := by
  unfold dispatch
  split
  · rfl
  · rfl
  · rename_i hframe
    rw [Rpc.isRequest_of_ofFrame? hframe] at h
    cases h
  · exact c.replies_heed _ _

theorem replies_dispatch_of_request {c : Client} (hwritable : c.writable = true) {frame : Json}
    (h : Rpc.isRequest frame = true) :
    ∃ reply, replies (c.dispatch frame).2 = [reply] ∧ Rpc.Answers frame reply := by
  obtain ⟨id, method, hid, hmethod, hframe⟩ := Rpc.ofFrame?_of_isRequest h
  refine ⟨_, ?_, c.answers_reply hid hmethod (frame.get? "params")⟩
  simp only [dispatch, hframe, write, hwritable, if_true, replies_append, replies_answer]
  rfl

theorem writable_dispatch (c : Client) (frame : Json) :
    (c.dispatch frame).1.writable = c.writable := by
  unfold dispatch
  split <;> rfl

/-- Whatever state a client is in, it replies to the requests among the values it takes, to each once and
in their order, and writes nothing else upon them. -/
theorem answers_dispatchAll {c : Client} (hwritable : c.writable = true) (frames : List Json) :
    List.Forall₂ Rpc.Answers (frames.filter Rpc.isRequest) (written (c.dispatchAll frames).2) := by
  induction frames generalizing c with
  | nil => exact .nil
  | cons frame frames ih =>
      have htail := ih ((c.writable_dispatch frame).trans hwritable)
      simp only [dispatchAll, written_append]
      rw [written_of_aside (c.aside_dispatch frame)]
      by_cases hrequest : Rpc.isRequest frame = true
      · obtain ⟨reply, hreply, hanswers⟩ := replies_dispatch_of_request hwritable hrequest
        rw [List.filter_cons_of_pos hrequest, hreply]
        exact .cons hanswers htail
      · rw [List.filter_cons_of_neg hrequest,
          c.replies_dispatch_of_not_request (by simpa using hrequest)]
        exact htail

end Client

end ServerLink
