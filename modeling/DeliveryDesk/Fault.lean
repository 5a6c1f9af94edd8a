import DeliveryDesk.Json.Printing
import DeliveryDesk.Text.Blank

/-!
# What can go wrong

A `Fault` is the cause of a failed action. Local faults are found before any request is
made: bad operator input and unusable configuration. The others come from the exchange with
the service: no answer at all, an answer that reports an error, or a successful answer whose
body is not what was asked for.

An error answer usually explains itself in a member `detail`, which may be a text, a list of
messages or a further wrapper; `detailMessage?` finds the readable part.
-/

namespace DeliveryDesk

/-- The cause of a failed action. -/
inductive Fault where
  /-- Bad or missing operator input. -/
  | validation (message : String)
  /-- The exchange could not be completed. -/
  | transport (reason : String)
  /-- The service answered with an error. The body is kept when it is JSON. -/
  | backend (status : UInt16) (message : String) (body : Option Json)
  /-- A successful answer with an unusable body. -/
  | malformedResponse (reason : String)
  /-- The service's address is no URL. -/
  | url (reason : String)
  /-- The configuration cannot be used. -/
  | config (message : String)
deriving Repr, BEq

/-- The kinds of faults. -/
inductive FaultKind where
  | localValidation
  | transport
  | backend
  | malformedResponse
  | configuration
deriving DecidableEq, Repr

namespace Fault

/-- The kind of a fault. -/
def kind : Fault → FaultKind
  | .validation _ => .localValidation
  | .transport _ => .transport
  | .backend .. => .backend
  | .malformedResponse _ => .malformedResponse
  | .url _ => .configuration
  | .config _ => .configuration

/-- Whether a fault is found before any request is made. -/
def isLocal (f : Fault) : Bool :=
  match f.kind with
  | .localValidation => true
  | .configuration => true
  | _ => false

/-- The text of a fault. -/
def message : Fault → String
  | .validation m => m
  | .transport r => "request failed: " ++ r
  | .backend _ m _ => m
  | .malformedResponse r => "unexpected response body: " ++ r
  | .url r => "Invalid URL: " ++ r
  | .config m => "Configuration error: " ++ m

/-- The status of an error answer. -/
def status? : Fault → Option UInt16
  | .backend s _ _ => some s
  | _ => none

/-- The JSON body of an error answer. -/
def body? : Fault → Option Json
  | .backend _ _ b => b
  | _ => none

/-- The messages that the items of a list carry. -/
def itemMessages (items : List Json) : List String :=
  items.filterMap fun item => (item.member? "msg").bind Json.text?

mutual

/-- The readable part of a `detail` member. Null and the empty text have none. -/
def detailMessage? : Json → Option String
  | .string s => if s.isEmpty then none else some s
  | .array items =>
    match itemMessages items with
    | [] => some (Json.array items).compact
    | messages => some (Text.join "; " messages)
  | .object members =>
    match wrappedMessage? members with
    | some message => message
    | none => some (Json.object members).compact
  | .null => none
  | .bool b => some (Json.bool b).compact
  | .number n => some (Json.number n).compact

/-- The readable part of the `detail` member among the members of a wrapper, if there is such
a member. -/
def wrappedMessage? : List (String × Json) → Option (Option String)
  | [] => none
  | (key, value) :: rest =>
    if key = "detail" then some (detailMessage? value) else wrappedMessage? rest

end

/-- The message of an error answer without a readable detail. -/
def genericMessage (status : UInt16) : String :=
  "request failed with status " ++ decimalText status.toNat

/-- The fault that an error answer stands for. -/
def ofErrorAnswer (status : UInt16) (body : Option Json) : Fault :=
  let detail := (body.bind (·.member? "detail")).bind detailMessage?
  .backend status (detail.getD (genericMessage status)) body

/-- Whatever message is found in it, the body is kept. -/
@[simp]
theorem body?_ofErrorAnswer (status : UInt16) (body : Option Json) :
    (ofErrorAnswer status body).body? = body := rfl

end Fault

end DeliveryDesk
