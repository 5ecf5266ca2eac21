import CodeHealth.Failure.Explanation
import CodeHealth.Service.Query
import CodeHealth.Session.World

/-! Reading through the cache. A fresh entry answers without a request; otherwise the answer is
fetched and kept. While the client is not ready nothing is sent, and the state is loading. -/
namespace CodeHealth

/-- What a view shows of something that is read. -/
structure ReadState (α : Type) where
  data : Option α
  loading : Bool
  error : Option Explanation

namespace ReadState

variable {α : Type}

def pending : ReadState α := ⟨none, true, none⟩

def ready (a : α) : ReadState α := ⟨some a, false, none⟩

/-- Nothing is known and nothing is under way. -/
def absent : ReadState α := ⟨none, false, none⟩

/-- A failure, beside the answer that was known before. -/
def failed (e : Explanation) (previous : Option α) : ReadState α := ⟨previous, false, some e⟩

def isReady (s : ReadState α) : Bool := !s.loading && s.error.isNone && s.data.isSome

/-- The data, or why there is none. -/
def result (s : ReadState α) : Except Explanation α :=
  match s.error, s.data with
  | some e, _ => .error e
  | none, some a => .ok a
  | none, none => .error (.ofCode .sessionNotReady)

end ReadState

/-- A call whose answer is kept under a key. -/
structure Handle (α : Type) where
  key : Key
  call : Call α

def Query.handle (q : Query) : Handle q.Answer := ⟨q.key, q.call⟩

namespace Handle

variable {α β : Type}

/-- The data of an entry, if it is of the type that is read. -/
def decode (h : Handle α) (e : Entry) : Option α := e.data.bind h.call.answer.ofJson

/-- The answer in the cache, if it is fresh. -/
def fresh? (h : Handle α) (c : Cache) : Option α := do
  let e ← c.get? h.key
  if e.stale || e.error.isSome then none else h.decode e

/-- The last answer in the cache, fresh or not. -/
def last? (h : Handle α) (c : Cache) : Option α := (c.get? h.key).bind h.decode

/-- Records the outcome of a fetch. -/
def settle (h : Handle α) (c : Cache) : Except Fault α → ReadState α × Cache
  | .ok a => (.ready a, c.storeSuccess h.key (h.call.answer.toPlain a))
  | .error f => (.failed (explain (.fault f)) (h.last? c), c.storeError h.key f)

variable [Backend β]

def fetch (h : Handle α) (c : Client) (w : World β) : ReadState α × World β :=
  let (outcome, w) := c.ask h.call w
  let (state, cache) := h.settle w.cache outcome
  (state, w.withCache cache)

/-- Fetches, fresh or not. -/
def revalidate (h : Handle α) (c : Client) (w : World β) : ReadState α × World β :=
  if c.ready then h.fetch c w else (.pending, w)

def read (h : Handle α) (c : Client) (w : World β) : ReadState α × World β :=
  if c.ready then
    match h.fresh? w.cache with
    | some a => (.ready a, w)
    | none => h.fetch c w
  else (.pending, w)

end Handle

end CodeHealth
