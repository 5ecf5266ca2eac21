import CodeHealth.Cache.Event
import CodeHealth.Service.Call
import CodeHealth.Service.Script

/-! The shared world of several clients: one cache, one service, and the requests that have been
sent to it. -/
namespace CodeHealth

structure World (β : Type) where
  cache : Cache
  backend : β
  /-- Requests with the full address they went to, in the order of sending. -/
  sent : List (String × Request)

namespace World

variable {β : Type}

def start (backend : β) : World β := ⟨.empty, backend, []⟩

def withCache (w : World β) (cache : Cache) : World β := { w with cache }

def dispatch (w : World β) (e : Event) (id : Option String) : World β × Invalidation :=
  let (cache, report) := w.cache.dispatch e id
  (w.withCache cache, report)

variable [Backend β]

/-- Sends one request. -/
def send (w : World β) (baseUrl : String) (r : Request) : Reply × World β :=
  let (reply, backend) := Backend.send w.backend baseUrl r
  (reply, { w with backend, sent := w.sent ++ [(r.url baseUrl, r)] })

end World

/-- Makes a call: one request, and what its reply means. -/
def Client.ask {α β : Type} [Backend β] (c : Client) (call : Call α) (w : World β) :
    Except Fault α × World β :=
  let (reply, w) := w.send c.baseUrl (c.request call)
  (call.outcome reply, w)

end CodeHealth
