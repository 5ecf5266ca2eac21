import CodeHealth.Service.Change
import CodeHealth.Session.Read

/-! Making changes. Only a change that the service has confirmed reaches the cache: its event is
dispatched, and then the answer is kept if it is worth it. -/
namespace CodeHealth

/-- A call that alters something, with the event that it is. -/
structure Mutation (α : Type) where
  call : Call α
  event : Event
  entity : Option String
  keep : Option Key := none

def Change.mutation (c : Change) : Mutation c.Answer := ⟨c.call, c.event, c.entity?, c.keep?⟩

namespace Mutation

variable {α β : Type}

/-- The cache after the change has been confirmed with the answer `a`. -/
def confirm (m : Mutation α) (c : Cache) (a : α) : Cache :=
  let c := (c.dispatch m.event m.entity).1
  match m.keep with
  | some k => c.storeSuccess k (m.call.answer.toPlain a)
  | none => c

variable [Backend β]

def run (m : Mutation α) (c : Client) (w : World β) : Except Explanation α × World β :=
  if c.ready then
    match c.ask m.call w with
    | (.ok a, w) => (.ok a, w.withCache (m.confirm w.cache a))
    | (.error f, w) => (.error (explain (.fault f)), w)
  else (.error (.ofCode .sessionNotReady), w)

end Mutation

/-- The last trial run of a fix, whether the client is ready or not. -/
def keptPreview (c : Cache) (id : String) : ReadState Preview :=
  match (c.get? (.fixPreview id)).bind fun e => e.data.bind Preview.shape.ofJson with
  | some p => .ready p
  | none => .absent

end CodeHealth
