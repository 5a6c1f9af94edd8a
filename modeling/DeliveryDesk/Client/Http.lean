import DeliveryDesk.Url.Reading

/-!
# Requests and what comes back

A request is answered with a status and a body, or its body breaks off, or no answer comes at
all. Header values are single lines of printable characters and tabs.
-/

namespace DeliveryDesk

/-- What a request asks of its resource. -/
inductive HttpMethod where
  | get
  | post
  | put
  | delete
deriving DecidableEq, Repr

/-- The written name of a method. -/
def HttpMethod.name : HttpMethod → String
  | .get => "GET"
  | .post => "POST"
  | .put => "PUT"
  | .delete => "DELETE"

/-- The media type of all bodies. -/
def jsonMediaType : String := "application/json"

/-- A request. Its answer is always wanted as JSON. -/
structure HttpRequest where
  method : HttpMethod
  url : Url
  userAgent : String
  eventType : Option String := none
  /-- The JSON text that is sent. -/
  body : Option String := none
deriving DecidableEq, Repr

namespace HttpRequest

/-- What the request line names. -/
def target (r : HttpRequest) : String := r.url.target

/-- The media type of the body that is sent. -/
def contentType (r : HttpRequest) : Option String := r.body.map fun _ => jsonMediaType

end HttpRequest

/-- What comes back for a request. -/
inductive HttpOutcome where
  | answered (status : UInt16) (body : List UInt8)
  /-- The body ends before its announced length. -/
  | brokenOff (status : UInt16)
  /-- No answer came. -/
  | failed
deriving DecidableEq, Repr

/-- Whether a status reports success. -/
def isSuccessStatus (status : UInt16) : Bool := 200 ≤ status && status ≤ 299

/-- The statuses of success are those from 200 to 299. -/
theorem isSuccessStatus_iff {status : UInt16} :
    isSuccessStatus status = true ↔ 200 ≤ status ∧ status ≤ 299 := by
  simp [isSuccessStatus]

/-- Whether a header value may hold a character. -/
def isHeaderChar (c : Char) : Bool := c == '\t' || (0x20 ≤ c.toNat && c.toNat != 0x7F)

/-- Whether a text can be a header value. -/
def isHeaderValue (s : String) : Bool := s.toList.all isHeaderChar

end DeliveryDesk
