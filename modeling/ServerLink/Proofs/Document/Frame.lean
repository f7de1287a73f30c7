import ServerLink.Proofs.Client.Reply
import ServerLink.Proofs.Document.Mirror

namespace ServerLink

namespace Rpc

theorem method?_request (id : Nat) (method : String) (params : Option Json) :
    method? (request id method params) = some method := by
  cases params <;>
    simp [method?, request, envelope, paramsMember, Json.get?_ofFields, Assoc.find?, Json.string?]

theorem method?_notification (method : String) (params : Option Json) :
    method? (notification method params) = some method := by
  cases params <;>
    simp [method?, notification, envelope, paramsMember, Json.get?_ofFields, Assoc.find?, Json.string?]

end Rpc

namespace Document

namespace Notice

/-- The version of a document, if it is one that 32 bits hold. -/
def version? (document : Json) : Option Int32 := do
  let n ← (document.get? "version").bind Json.int?
  if Int32.minValue.toInt ≤ n ∧ n ≤ Int32.maxValue.toInt then some (.ofInt n) else none

/-- The text that a list of changes leaves, if its only change replaces the whole text. -/
def wholeText? : Json → Option String
  | .array [change] =>
      if (change.get? "range").isSome then none else (change.get? "text").bind Json.string?
  | _ => none

def ofParams? (method : String) (params : Json) : Option Notice := do
  let document ← params.get? "textDocument"
  let uri ← (document.get? "uri").bind Json.string?
  if method = "textDocument/didOpen" then
    let language ← (document.get? "languageId").bind Json.string?
    let version ← version? document
    let text ← (document.get? "text").bind Json.string?
    some (.opened uri language version text)
  else if method = "textDocument/didChange" then
    let version ← version? document
    let text ← (params.get? "contentChanges").bind wholeText?
    some (.changed uri version text)
  else if method = "textDocument/didSave" then some (.saved uri)
  else if method = "textDocument/didClose" then some (.closed uri)
  else none

/-- What a server learns of a document from a frame that it reads as the protocol has it. -/
def ofFrame? (frame : Json) : Option Notice :=
  match Rpc.Incoming.ofFrame? frame with
  | some (.notification method (some params)) => ofParams? method params
  | _ => none

theorem version?_of_get? {document : Json} {version : Int32}
    (h : document.get? "version" = some (.int version.toInt)) : version? document = some version := by
  have hread : (document.get? "version").bind Json.int? = some version.toInt := by
    rw [h]
    rfl
  have hrange : Int32.minValue.toInt ≤ version.toInt ∧ version.toInt ≤ Int32.maxValue.toInt :=
    ⟨version.minValue_le_toInt, version.toInt_le⟩
  simp only [version?, hread, Option.bind_eq_bind, Option.bind_some, if_pos hrange, Int32.ofInt_toInt]

/-- The parameters of a notice can be read back. -/
theorem ofParams?_params (n : Notice) : ofParams? n.method n.params = some n := by
  cases n with
  | opened uri language version text =>
      let document : Json := .ofFields [("uri", .string uri), ("languageId", .string language),
        versionMember version, ("text", .string text)]
      have hdocument : (opened uri language version text).params.get? "textDocument" = some document :=
        Json.get?_ofFields ..
      have huri : document.get? "uri" = some (.string uri) := Json.get?_ofFields ..
      have hlanguage : document.get? "languageId" = some (.string language) := Json.get?_ofFields ..
      have hversion : version? document = some version := version?_of_get? (Json.get?_ofFields ..)
      have htext : document.get? "text" = some (.string text) := Json.get?_ofFields ..
      simp [ofParams?, method, hdocument, huri, hlanguage, hversion, htext, Json.string?]
  | changed uri version text =>
      let document : Json := .ofFields [("uri", .string uri), versionMember version]
      let change : Json := .ofFields [("text", .string text)]
      have hdocument : (changed uri version text).params.get? "textDocument" = some document :=
        Json.get?_ofFields ..
      have hchanges : (changed uri version text).params.get? "contentChanges" = some (.array [change]) :=
        Json.get?_ofFields ..
      have huri : document.get? "uri" = some (.string uri) := Json.get?_ofFields ..
      have hversion : version? document = some version := version?_of_get? (Json.get?_ofFields ..)
      have hrange : change.get? "range" = none := Json.get?_ofFields ..
      have htext : change.get? "text" = some (.string text) := Json.get?_ofFields ..
      simp [ofParams?, method, hdocument, hchanges, huri, hversion, wholeText?, hrange, htext,
        Json.string?]
  | saved uri | closed uri =>
      simp [ofParams?, method, params, Json.get?_ofFields, Assoc.find?, Json.string?]

theorem ofFrame?_notification (method : String) (params : Option Json) :
    ofFrame? (Rpc.notification method params) = params.bind (ofParams? method) := by
  have hid : (Rpc.notification method params).get? "id" = none := by
    cases params <;> exact Json.get?_ofFields ..
  have hmethod : (Rpc.notification method params).get? "method" = some (.string method) := by
    cases params <;> exact Json.get?_ofFields ..
  have hparams : (Rpc.notification method params).get? "params" = params := by
    cases params <;> exact Json.get?_ofFields ..
  cases params <;> simp [ofFrame?, Rpc.Incoming.ofFrame?, hid, hmethod, hparams, Json.string?]

theorem ofFrame?_of_id {frame id : Json} (hid : frame.get? "id" = some id) : ofFrame? frame = none := by
  unfold ofFrame? Rpc.Incoming.ofFrame?
  rw [hid]
  cases (frame.get? "method").bind Json.string? with
  | some method => rfl
  | none =>
      split
      · rename_i hframe
        dsimp only at hframe
        split at hframe
        · obtain ⟨n, -, hn⟩ := Option.map_eq_some_iff.mp hframe
          cases hn
        · cases hframe
      · rfl

end Notice

/-- The mirror of a server that has been sent frames. -/
def Mirror.ofFrames (frames : List Json) : Mirror :=
  replay (frames.filterMap Notice.ofFrame?)

end Document

namespace Client

open Document

def Message.notice? : Message → Option Notice
  | .document n => some n
  | _ => none

/-- The frame of a message tells a server of a document what the message does. -/
theorem ofFrame?_toJson (m : Message) : Notice.ofFrame? m.toJson = m.notice? := by
  cases m with
  | introduce | shutdown => exact Notice.ofFrame?_of_id (Json.get?_ofFields ..)
  | introduced | exit => exact Notice.ofFrame?_notification ..
  | document n =>
      rw [Message.toJson, Notice.ofFrame?_notification]
      exact n.ofParams?_params
  | watched changes =>
      have hnone : (watchedParams changes).get? "textDocument" = none := Json.get?_ofFields ..
      rw [Message.toJson, Notice.ofFrame?_notification]
      simp [Notice.ofParams?, hnone, Message.notice?]
  | reply id answer =>
      have hid : (Message.reply id answer).toJson.get? "id" = some id := by
        cases answer <;> simp [Message.toJson, Rpc.get?_reply, Rpc.Answer.member]
      exact Notice.ofFrame?_of_id hid

/-- Every message with a method of the documents can be read. -/
theorem isSome_ofFrame?_toJson {m : Message} {method : String}
    (hmethod : Rpc.method? m.toJson = some method)
    (hdocument : "textDocument/".toList <+: method.toList) : (Notice.ofFrame? m.toJson).isSome := by
  have hother {name : String} (hname : Rpc.method? m.toJson = some name)
      (hnot : ¬ "textDocument/".toList <+: name.toList) : False := by
    cases hname.symm.trans hmethod
    exact hnot hdocument
  rw [ofFrame?_toJson]
  cases m with
  | document => rfl
  | introduce | shutdown => exact (hother (Rpc.method?_request ..) (by decide)).elim
  | introduced | watched | exit => exact (hother (Rpc.method?_notification ..) (by decide)).elim
  | reply id answer =>
      cases answer <;> simp [Rpc.method?, Message.toJson, Rpc.get?_reply, Rpc.Answer.member] at hmethod

end Client

end ServerLink
