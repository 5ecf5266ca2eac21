import CodeHealth.Service.Call
import CodeHealth.Text.Glob

/-! A scripted service. Routes answer requests by method and path pattern, the latest matching one
first; each gives its replies in turn and repeats the last one. Every request is logged. -/
namespace CodeHealth

/-- Something that requests can be sent to. -/
class Backend (β : Type) where
  /-- The reply to a request, sent to the service at the given base address. -/
  send : β → String → Request → Reply × β

structure Route where
  method : Method
  pattern : String
  first : Reply
  more : List Reply
  served : Nat := 0

namespace Route

def matchesPath (pattern path : String) : Bool := Text.Glob.accepts pattern.toList path.toList

def answers (t : Route) (r : Request) : Bool := t.method == r.method && matchesPath t.pattern r.path

/-- The reply whose turn it is. -/
def reply (t : Route) : Reply := (t.more.take t.served).getLast?.getD t.first

end Route

/-- Routes, the latest first, and the requests so far. -/
structure Script where
  routes : List Route
  log : List Request

namespace Script

def empty : Script := ⟨[], []⟩

/-- Adds a route with the given replies; without any, nothing is added. -/
def on (s : Script) (method : Method) (pattern : String) : List Reply → Script
  | [] => s
  | r :: rs => { s with routes := ⟨method, pattern, r, rs, 0⟩ :: s.routes }

def onRaw (s : Script) (method : Method) (pattern : String) (status : UInt16) (body : String) :
    Script :=
  s.on method pattern [.ok ⟨status, body⟩]

def onStatus (s : Script) (method : Method) (pattern : String) (status : UInt16) (body : Json) :
    Script :=
  s.onRaw method pattern status body.compact

/-- Answers with each body in turn. -/
def onSequence (s : Script) (method : Method) (pattern : String) (bodies : List Json) : Script :=
  s.on method pattern (bodies.map fun b => .ok ⟨200, b.compact⟩)

/-- Gives no response. -/
def fail (s : Script) (method : Method) (pattern message : String) : Script :=
  s.on method pattern [.error (.network message)]

/-- The reply of the first route that answers, which counts it as served. -/
def serve (r : Request) : List Route → Option (Reply × List Route)
  | [] => none
  | t :: ts =>
    if t.answers r then some (t.reply, { t with served := t.served + 1 } :: ts)
    else (serve r ts).map fun p => (p.1, t :: p.2)

/-- What is answered where no route does. -/
def missing (r : Request) : Response where
  status := 404
  body := (Json.record [("detail", .text
    ("No mock for " ++ Label.name r.method ++ " " ++ r.path))]).compact

def send (s : Script) (r : Request) : Reply × Script :=
  let log := s.log ++ [r]
  match serve r s.routes with
  | some (reply, routes) => (reply, ⟨routes, log⟩)
  | none => (.ok (missing r), { s with log })

instance : Backend Script where
  send s _ r := s.send r

def requestsTo (s : Script) (method : Method) (pattern : String) : List Request :=
  s.log.filter fun r => r.method == method && Route.matchesPath pattern r.path

def clearLog (s : Script) : Script := { s with log := [] }

end Script

end CodeHealth
