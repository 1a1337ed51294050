/-
  NodeClient.Http.Outcome
  ───────────────────────
  What an HTTP reply means to the one who has sent a JSON-RPC request.

  An error object counts whatever the status is.  Without one, the status of an error counts
  whatever the body is.  Only then does it matter whether the body is a reply with a result.
-/
import NodeClient.Client.Error
import NodeClient.Http.Status
import NodeClient.Json.Reader

namespace NodeClient

open Json

/-- The value of a text in UTF-8. -/
def Json.Value.ofBytes? (bytes : List UInt8) : Option Value :=
  match String.fromUTF8? (ByteArray.mk bytes.toArray) with
  | some s => (Value.ofText s).toOption
  | none => none

namespace Http

/-- A reply that has been received to its end. -/
structure Reply where
  status : Nat
  body : List UInt8
  deriving DecidableEq

/-- The error object of a reply, if there is one that is not null. -/
def errorMember? (reply : Value) : Option Value :=
  match reply.get? "error" with
  | some .null => none
  | other => other

/-- What an error object says. -/
def ofErrorMember (v : Value) : TransportError :=
  match NodeError.record.decode v with
  | .ok e => .node e
  | .error cause => .undecodable (.mismatch cause)

/-- The result in a reply without an error object. -/
def resultOf (reply : Value) : Except TransportError Value :=
  match reply with
  | .object members =>
      match Members.get? members "result" with
      | some v => .ok v
      | none => .error (.invalid "missing result")
  | other => .error (.invalid ("expected an object, got " ++ other.compact))

/-- What a reply means. -/
def Reply.outcome (r : Reply) : Except TransportError Value :=
  match Value.ofBytes? r.body with
  | none =>
      if isFailure r.status then .error (.network (.refused r.status))
      else .error (.undecodable .malformed)
  | some reply =>
      match errorMember? reply with
      | some e => .error (ofErrorMember e)
      | none =>
          if isFailure r.status then .error (.network (.refused r.status)) else resultOf reply

/-- What comes of sending a request: a reply, unless something is wrong on the way. -/
abbrev Exchange := Except NetworkFault Reply

/-- What an exchange means. -/
def outcomeOf : Exchange → Except TransportError Value
  | .error fault => .error (.network fault)
  | .ok reply => reply.outcome

end Http

end NodeClient
