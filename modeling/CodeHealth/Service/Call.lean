import CodeHealth.Service.Request

/-! Calls: what is asked of the service and the shape of the answer, independent of who asks. A
client turns a call into a request under its own name and reads the reply. -/
namespace CodeHealth

structure Call (α : Type) where
  method : Method
  /-- The path below the prefix of the interface. -/
  path : String
  query : Pairs := []
  body : Option Json := none
  answer : Shape α

/-- Where the service is, and as whom to talk to it. -/
structure Client where
  baseUrl : String
  token : Option String
  /-- Whether sign-in is over; until then nothing is sent. -/
  ready : Bool := true
  deriving DecidableEq

def apiPrefix : String := "/api/v1"

/-- Stands for the identifier that a request is given when it leaves: a random one, new for each
request. -/
def requestId : String := "<uuid4>"

namespace Client

def headers (c : Client) (body : Option Json) : Pairs :=
  [("Accept", "application/json"), ("X-Request-ID", requestId)] ++
    Pairs.optional "Authorization" (c.token.map ("Bearer " ++ ·)) ++
    Pairs.optional "Content-Type" (body.map fun _ => "application/json")

def request {α : Type} (c : Client) (call : Call α) : Request where
  method := call.method
  path := apiPrefix ++ call.path
  query := call.query
  headers := c.headers call.body
  body := call.body.map Json.compact

end Client

/-- The text that a body is read as: nothing means null. -/
def bodyText (body : String) : String :=
  if (Text.trim body).isEmpty then "null" else body

/-- What a reply means for a call. If its body cannot be read, one fixed text stands for whatever the
reader of the body would report. -/
def Call.outcome {α : Type} (call : Call α) : Reply → Except Fault α
  | .error f => .error f
  | .ok r =>
    if r.isSuccess then
      match call.answer.read (bodyText r.body) with
      | some a => .ok a
      | none => .error (.unreadable r.status "unexpected body")
    else .error (.ofResponse r.status r.body)

end CodeHealth
