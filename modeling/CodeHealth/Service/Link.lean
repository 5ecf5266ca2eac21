import CodeHealth.Service.Script

/-! A scripted service at the end of a line. It is reached under one address, or not at all; what
is sent anywhere else stays without a response. -/
namespace CodeHealth

structure Link where
  /-- Where the service is reached, without slashes at the end; none while the line is down. -/
  address : Option String
  script : Script

namespace Link

/-- The part of a base address that lies below the address of the service. -/
def below? (l : Link) (base : String) : Option String := do
  let address ← l.address
  let base := (Request.trimSlashes base).toList
  if address.toList.isPrefixOf base then
    match base.drop address.length with
    | [] => some ""
    | '/' :: r => some (String.ofList ('/' :: r))
    | _ => none
  else none

def noResponse : Fault := .network "no response"

def send (l : Link) (base : String) (r : Request) : Reply × Link :=
  match l.below? base with
  | some folder =>
    let (reply, script) := l.script.send { r with path := folder ++ r.path }
    (reply, { l with script })
  | none => (.error noResponse, l)

instance : Backend Link := ⟨send⟩

end Link

end CodeHealth
