import PoolOperator.Cluster.Address
import PoolOperator.Cluster.Error
import PoolOperator.Cluster.Reason
import PoolOperator.Dialogue
import PoolOperator.Reading
import PoolOperator.Value.Reading
import PoolOperator.Value.Text

/-!
# Requests to the cluster

The cluster is asked by requests over HTTP and replies with a status code and a
text, unless it cannot be reached.  A computation that sends requests is a
dialogue (`Exchange`), so that its requests can be read off it.

A reply with a code for a failure is an error, which the cluster describes in
the text (`ErrorResponse.ofReply`).  Any other reply holds what was asked for.
-/

namespace PoolOperator

/-- What a request does. -/
inductive RequestMethod where
  /-- Reads something. -/
  | get
  /-- Creates something in a collection. -/
  | post
  /-- Puts something in place of something else. -/
  | put
  /-- Changes a part of something. -/
  | patch
  deriving DecidableEq, Repr, Inhabited

/-- The name of a method. -/
def RequestMethod.name : RequestMethod → String
  | .get => "GET"
  | .post => "POST"
  | .put => "PUT"
  | .patch => "PATCH"

/-- What a request carries. -/
structure RequestContent where
  /-- The type of the content. -/
  type : String
  /-- The content, which is written as JSON. -/
  value : Value
  deriving Repr, Inhabited

/-- A request. -/
structure Request where
  /-- What it does. -/
  method : RequestMethod
  /-- What it is about. -/
  address : String
  /-- What it carries. -/
  content : Option RequestContent
  deriving Repr, Inhabited

/-- What comes back. -/
inductive Reply where
  /-- A reply of the cluster. -/
  | answer (status : Nat) (text : String)
  /-- No reply, and the reason. -/
  | failure (reason : String)
  deriving DecidableEq, Repr, Inhabited

/-- A computation that sends requests. -/
abbrev Exchange : Type → Type := Dialogue Request fun _ => Reply

/-- A computation that sends requests and may fail. -/
abbrev ClusterCall : Type → Type := ExceptT ClusterError Exchange

/-! ## Replies -/

namespace ErrorResponse

/-- Reads the description of an error. -/
def read (value : Value) : Except ReadError ErrorResponse := do
  let slots ← Reading.slots "struct ErrorResponse" ["status", "message", "reason", "code"] value
  let status ← slots.required value "status" Reading.text
  let message ← slots.defaulted "message" "" Reading.text
  let reason ← slots.defaulted "reason" "" Reading.text
  let code ← slots.required value "code" Source.wholeNumber
  if 0 ≤ code ∧ code < Nat.pow 2 16 then return { status, message, reason, code := code.toNat }
  else throw (.invalidValue (Value.int code).describe "u16")

/-- The error that a reply with a code for a failure stands for.  A text that
does not describe an error is cited. -/
def ofReply (status : Nat) (text : String) : ErrorResponse :=
  match (Value.ofText? text).map read with
  | some (.ok response) => response
  | _ => {
      status := HttpStatus.text status
      message := Text.quoted text
      reason := "Failed to parse error data"
      code := status }

end ErrorResponse

/-- How deep a value in a reply may be nested. -/
def greatestNesting : Nat := 127

/-- The value that the text of a reply stands for. -/
def Reply.valueOf (text : String) : Except ReadError Value :=
  match Value.ofText? text with
  | some value =>
      if value.nesting ≤ greatestNesting then .ok value
      else .error (.other "recursion limit exceeded")
  | none => .error (.other "expected value")

/-- What a reply holds. -/
def Reply.read {α : Type} (read : Value → Except ReadError α) : Reply → Except ClusterError α
  | .failure reason => .error (.unreachable reason)
  | .answer status text =>
      if 400 ≤ status ∧ status < 600 then .error (.reported (.ofReply status text))
      else (valueOf text >>= read).mapError fun error => .unreadable error.message

/-- Sends a request and reads what the reply holds. -/
def ClusterCall.send {α : Type} (request : Request) (read : Value → Except ReadError α) :
    ClusterCall α :=
  .mk (.ask request fun reply => .done (reply.read read))

end PoolOperator
