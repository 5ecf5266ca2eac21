import CodeHealth.Failure.Fault
import CodeHealth.Text.Percent

/-! Requests to the service and its replies. -/
namespace CodeHealth

inductive Method where
  | get
  | post
  | put
  | patch
  | delete
  deriving DecidableEq

namespace Method

instance : Label Method where
  all := [get, post, put, patch, delete]
  name
    | get => "GET"
    | post => "POST"
    | put => "PUT"
    | patch => "PATCH"
    | delete => "DELETE"
  mem_all a := by cases a <;> simp
  name_injective a b h := by cases a <;> cases b <;> simp_all

def shape : Shape Method := .choice inferInstance

end Method

/-- Named values in the order in which they are written. -/
abbrev Pairs := List (String × String)

namespace Pairs

/-- A pair, if its value is given. -/
def optional (name : String) (value : Option String) : Pairs :=
  match value with
  | some v => [(name, v)]
  | none => []

/-- The pairs as a query string. -/
def queryString (ps : Pairs) : String :=
  "&".intercalate (ps.map fun p => Text.Percent.encode p.1 ++ "=" ++ Text.Percent.encode p.2)

end Pairs

structure Request where
  method : Method
  path : String
  query : Pairs
  headers : Pairs
  body : Option String
  deriving DecidableEq

namespace Request

def queryString (r : Request) : String := r.query.queryString

/-- The first value of that name in the query. -/
def queryValue? (r : Request) (name : String) : Option String := r.query.lookup name

/-- The first header of that name, whatever the case of its letters. -/
def header? (r : Request) (name : String) : Option String :=
  (r.headers.find? fun h => Text.sameIgnoringAsciiCase h.1 name).map (·.2)

/-- The body as a plain value, if it is one. -/
def jsonBody? (r : Request) : Option Json := r.body.bind Json.read

/-- The path with the query behind it. -/
def target (r : Request) : String :=
  if r.query.isEmpty then r.path else r.path ++ "?" ++ r.queryString

/-- A base address without the slashes at its end. -/
def trimSlashes (s : String) : String :=
  String.ofList (s.toList.reverse.dropWhile (· == '/')).reverse

def url (r : Request) (base : String) : String := trimSlashes base ++ r.target

end Request

structure Response where
  status : UInt16
  body : String
  deriving DecidableEq

def Response.isSuccess (r : Response) : Bool := 200 ≤ r.status && r.status < 300

/-- What comes back for a request: a response with any status, or no response. -/
abbrev Reply := Except Fault Response

end CodeHealth
