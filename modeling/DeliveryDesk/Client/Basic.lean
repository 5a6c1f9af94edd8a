import DeliveryDesk.Client.Http
import DeliveryDesk.Service

/-!
# The service's client

A `Client` knows the address below which the service has its resources. `Client.request` is
the one request that a call makes, `Client.reply` what its outcome means:

* an error status is an error answer, whatever its body is;
* a success status with a body that can be read as the call's answer is that answer, and with
  any other body a malformed response; a deletion does not look at its body;
* everything else is a failed exchange.
-/

namespace DeliveryDesk

/-- The client that the service sees. -/
def defaultUserAgent : String := "hookdesk-sdk/0.1.0"

/-- A client of the service. -/
structure Client where
  base : Url
  userAgent : String
deriving DecidableEq, Repr

namespace Client

/-- A request that cannot be made. -/
def unusableRequest : Fault := .transport "builder error"

/-- A request without an answer. -/
def noAnswer : Fault := .transport "error sending request"

/-- A body that cannot be read to its end. -/
def unreadableBody : Fault := .transport "error decoding response body"

/-- A body that is not what was asked for. -/
def unusableBody : Fault := .malformedResponse "not the expected document"

/-- The client for an address. The address must be a URL to whose path something can be
appended. -/
def build (baseUrl : String) (userAgent : Option String) : Except Fault Client :=
  match Url.read baseUrl with
  | .error e => .error (.url e.message)
  | .ok base =>
    match base.path with
    | .plain _ => .error (.config ("base URL cannot carry a path: " ++ base.text))
    | .segments _ =>
      let userAgent := userAgent.getD defaultUserAgent
      if isHeaderValue userAgent then .ok { base, userAgent } else .error unusableRequest

/-- What a call asks for: the method, the segments below the base path, the query, the event
type and the body. -/
structure Endpoint where
  method : HttpMethod
  segments : List String
  query : List (String × String) := []
  eventType : Option String := none
  body : Option Json := none

/-- An address with the query of a call. -/
def Endpoint.withQuery (e : Endpoint) (url : Url) : Url :=
  e.query.foldl (fun u (name, value) => u.appendPair name value) url

/-- A number as the value of a query pair. -/
def pair (name : String) (n : UInt32) : String × String := (name, decimalText n.toNat)

/-- What a call asks for. -/
def endpoint : Call → Endpoint
  | .listSubscriptions page =>
    { method := .get, segments := ["subscriptions", ""],
      query := [pair "skip" page.skip, pair "limit" page.limit] }
  | .getSubscription id => { method := .get, segments := ["subscriptions", id] }
  | .createSubscription request =>
    { method := .post, segments := ["subscriptions", ""], body := some request.encode }
  | .updateSubscription id request =>
    { method := .put, segments := ["subscriptions", id], body := some request.encode }
  | .deleteSubscription id => { method := .delete, segments := ["subscriptions", id] }
  | .sendTest id payload eventType =>
    { method := .post, segments := ["ingest", id],
      eventType := eventType.bind fun e => if e.isEmpty then none else some e,
      body := some payload }
  | .getDelivery taskId => { method := .get, segments := ["ingest", "delivery", taskId] }
  | .listDeliveries id limit =>
    { method := .get, segments := ["subscriptions", id, "deliveries"],
      query := (limit.map (pair "limit")).toList }
  | .status => { method := .get, segments := ["status"] }

/-- The schemes over which the service can be reached. -/
def isWebScheme (scheme : String) : Bool := scheme == "http" || scheme == "https"

/-- The request that a call makes. -/
def request (c : Client) (call : Call) : Except Fault HttpRequest :=
  let e := endpoint call
  match c.base.extend e.segments with
  | none => .error (.config "base URL cannot carry a path")
  | some url =>
    if isWebScheme url.scheme ∧ e.eventType.all isHeaderValue then
      .ok {
        method := e.method
        url := e.withQuery url
        userAgent := c.userAgent
        eventType := e.eventType
        body := e.body.map Json.compact }
    else .error unusableRequest

/-- A record of the client. -/
def record (message : String) (fields : List (String × LogValue)) : LogRecord where
  level := .debug
  target := "hookdesk_sdk::client"
  message
  fields

/-- What the client logs when it makes a call: the address of a list before the list is asked for,
that the status is asked for, and the status of the answer to a dispatch once the answer has been
read. -/
def records {σ : Type} (exchange : HttpRequest → σ → HttpOutcome × σ) (c : Client) (s : σ) :
    Call → List LogRecord
  | .listSubscriptions page =>
    let e := endpoint (.listSubscriptions page)
    (c.base.extend e.segments).toList.map fun url =>
      record "listing subscriptions" [("url", .text (e.withQuery url).text)]
  | .status => [record "Checking service status" []]
  | .sendTest id payload eventType =>
    match c.request (.sendTest id payload eventType) with
    | .error _ => []
    | .ok r =>
      match (exchange r s).1 with
      | .answered status _ => [record "dispatch answered" [("status", .number status.toNat)]]
      | _ => []
  | _ => []

/-- Reads the body of a successful answer. -/
def readAnswer {α : Type} (decode : RawJson → Option α) (body : List UInt8) : Except Fault α :=
  match (RawJson.read? (Text.decodeUtf8 body)).bind decode with
  | some a => .ok a
  | none => .error unusableBody

/-- What a successful answer brings. -/
def successReply (status : UInt16) (body : List UInt8) : (call : Call) → call.Reply
  | .listSubscriptions _ => readAnswer (Record.list Subscription.decode) body
  | .getSubscription _ => readAnswer Subscription.decode body
  | .createSubscription _ => readAnswer Subscription.decode body
  | .updateSubscription _ _ => readAnswer Subscription.decode body
  | .deleteSubscription _ => .ok ()
  | .sendTest _ _ _ =>
    match Json.ofBytes? body with
    | some json => .ok { status, body := json }
    | none => .error unusableBody
  | .getDelivery _ => readAnswer DeliveryTask.decode body
  | .listDeliveries _ _ => readAnswer (Record.list LogEntry.decode) body
  | .status => readAnswer HealthSnapshot.decode body

/-- What an answer whose body breaks off means. Only a deletion that succeeded does not need
its body. -/
def brokenReply (status : UInt16) : (call : Call) → call.Reply
  | .deleteSubscription _ => if isSuccessStatus status then .ok () else .error unreadableBody
  | _ => .error unreadableBody

/-- What the outcome of a call's request means. -/
def reply (call : Call) : HttpOutcome → call.Reply
  | .failed => .error noAnswer
  | .brokenOff status => brokenReply status call
  | .answered status body =>
    if isSuccessStatus status then successReply status body call
    else .error (Fault.ofErrorAnswer status (Json.ofBytes? body))

/-- Makes a call: one request, if it can be made, and what its outcome means. -/
def perform {σ : Type} (exchange : HttpRequest → σ → HttpOutcome × σ) (c : Client)
    (call : Call) (s : σ) : call.Reply × σ :=
  match c.request call with
  | .error fault => (.error fault, s)
  | .ok r =>
    let (outcome, s) := exchange r s
    (reply call outcome, s)

end Client

end DeliveryDesk
