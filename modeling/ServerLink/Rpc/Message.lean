import ServerLink.Json.Basic

namespace ServerLink.Rpc

def envelope (members : List (String × Json)) : Json :=
  .ofFields (("jsonrpc", .string "2.0") :: members)

def paramsMember (params : Option Json) : List (String × Json) :=
  params.toList.map fun p => ("params", p)

def request (id : Nat) (method : String) (params : Option Json) : Json :=
  envelope ([("id", .nat id), ("method", .string method)] ++ paramsMember params)

def notification (method : String) (params : Option Json) : Json :=
  envelope (("method", .string method) :: paramsMember params)

inductive Answer where
  | result (value : Json)
  | unknownMethod (method : String)
  deriving Repr

def unknownMethodCode : Int := -32601

def Answer.member : Answer → String × Json
  | .result value => ("result", value)
  | .unknownMethod method =>
      ("error", .ofFields [("code", .int unknownMethodCode),
        ("message", .string ("Method not found: " ++ method))])

def reply (id : Json) (answer : Answer) : Json :=
  envelope [("id", id), answer.member]

inductive Incoming where
  /-- The answer to a request of the client, as a whole. -/
  | response (id : Nat) (body : Json)
  | request (id : Json) (method : String) (params : Option Json)
  | notification (method : String) (params : Option Json)
  deriving Repr

def carriesAnswer (frame : Json) : Bool :=
  (frame.get? "result").isSome || (frame.get? "error").isSome

/-- The message that a value is. A value with an identifier and a method is a request, whatever else it
carries; an answer has to have an identifier that the client may have given. -/
def Incoming.ofFrame? (frame : Json) : Option Incoming :=
  match frame.get? "id", (frame.get? "method").bind Json.string? with
  | some id, some method => some (.request id method (frame.get? "params"))
  | none, some method => some (.notification method (frame.get? "params"))
  | some id, none =>
      if carriesAnswer frame then id.nat?.map fun n => .response n frame else none
  | none, none => none

end ServerLink.Rpc
