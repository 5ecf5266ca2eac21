import CodeHealth.Session.FindingsList
import CodeHealth.Session.Poller

/-! Whole sessions: any clients that share one world, with lists of findings and pollers by name.
A session moves in steps, and each step has an answer. A step that breaks off keeps what it has done
until then. -/
namespace CodeHealth

/-- A list of findings with the client that it reads through and the page that it loaded last. -/
structure Screen (ι : Type) where
  who : ι
  list : FindingsList := {}
  loaded : Option (Page Finding) := none

/-- A session of the clients that `ι` names. -/
structure Session (ι β : Type) where
  world : World β
  clients : ι → Client
  screens : List (String × Screen ι) := []
  pollers : List (String × ι × Poller) := []

/-- What can be done with a list of findings. -/
inductive ScreenStep where
  | setFilters (filters : FindingFilters)
  | setParams (params : ListParams)
  | goToPage (page : UInt32)
  | nextPage
  | previousPage
  | load
  | summary
  | select (id : String)
  | deselect (id : String)
  | toggle (id : String)
  | isSelected (id : String)
  | selectPage
  | clearSelection
  | bulkMark (status : TriageStatus) (reason : Option String)
  | look

inductive Step (ι : Type) where
  | gate (who : ι) (ready : Bool)
  | read (who : ι) (q : Query)
  | revalidate (who : ι) (q : Query)
  | keptPreview (id : String)
  | change (who : ι) (c : Change)
  | dispatch (e : Event) (id : Option String)
  | screen (name : String) (who : ι) (step : ScreenStep)
  | newPoller (name : String) (who : ι) (runId : String) (intervalMs : UInt64)
  | poll (name : String)
  | run (name : String) (maxPolls : Nat)
  | lookAtPoller (name : String)

/-- The answer to a step; answers of all types appear as plain values. -/
inductive Answer where
  | done
  | state (s : ReadState Json)
  | outcome (r : Except Explanation Json)
  | flag (b : Bool)
  | invalidation (i : Invalidation)
  | seen (states : List (ReadState Json))
  /-- The step breaks off, since a number would need more than 32 bits. -/
  | overflow

/-- The same state with its data as a plain value. -/
def ReadState.erase {α : Type} (shape : Shape α) (s : ReadState α) : ReadState Json :=
  ⟨s.data.map shape.toPlain, s.loading, s.error⟩

namespace Session

variable {ι β : Type}

def setClient [DecidableEq ι] (s : Session ι β) (who : ι) (c : Client) : Session ι β :=
  { s with clients := fun i => if i = who then c else s.clients i }

def withWorld (s : Session ι β) (w : World β) : Session ι β := { s with world := w }

/-- The pairs with `v` under `name`, which goes to the end if it is new. -/
def putAt {α : Type} (name : String) (v : α) : List (String × α) → List (String × α)
  | [] => [(name, v)]
  | (n, w) :: r => if n = name then (n, v) :: r else (n, w) :: putAt name v r

def screenOf (s : Session ι β) (name : String) (who : ι) : Screen ι :=
  (s.screens.lookup name).getD { who }

def putScreen (s : Session ι β) (name : String) (v : Screen ι) : Session ι β :=
  { s with screens := putAt name v s.screens }

def putPoller (s : Session ι β) (name : String) (p : ι × Poller) : Session ι β :=
  { s with pollers := putAt name p s.pollers }

variable [Backend β]

def screenStep (s : Session ι β) (v : Screen ι) : ScreenStep → Answer × Screen ι × Session ι β
  | .setFilters filters => (.done, { v with list := v.list.setFilters filters }, s)
  | .setParams params => (.done, { v with list := v.list.setParams params }, s)
  | .goToPage page => (.done, { v with list := v.list.goToPage page }, s)
  | .nextPage =>
    match v.list.nextPage with
    | some list => (.done, { v with list }, s)
    | none => (.overflow, v, s)
  | .previousPage => (.done, { v with list := v.list.previousPage }, s)
  | .load =>
    let (state, w) := v.list.load (s.clients v.who) s.world
    (.state (state.erase (Page.shape Finding.shape)), { v with loaded := state.data }, s.withWorld w)
  | .summary =>
    let (state, w) := v.list.summary (s.clients v.who) s.world
    (.state (state.erase SeverityCounts.shape), v, s.withWorld w)
  | .select id => (.done, { v with list := v.list.select id }, s)
  | .deselect id => (.done, { v with list := v.list.deselect id }, s)
  | .toggle id => (.done, { v with list := v.list.toggle id }, s)
  | .isSelected id => (.flag (v.list.isSelected id), v, s)
  | .selectPage =>
    match v.loaded with
    | some page => (.done, { v with list := v.list.selectPage page }, s)
    | none => (.done, v, s)
  | .clearSelection => (.done, { v with list := v.list.clearSelection }, s)
  | .bulkMark status reason =>
    let (r, list, w) := v.list.bulkMark status reason (s.clients v.who) s.world
    (.outcome (r.map BulkUpdate.shape.toPlain), { v with list }, s.withWorld w)
  | .look => (.done, v, s)

def step [DecidableEq ι] (s : Session ι β) : Step ι → Answer × Session ι β
  | .gate who ready => (.flag ready, s.setClient who { s.clients who with ready })
  | .read who q =>
    let (state, w) := q.handle.read (s.clients who) s.world
    (.state (state.erase q.shape), s.withWorld w)
  | .revalidate who q =>
    let (state, w) := q.handle.revalidate (s.clients who) s.world
    (.state (state.erase q.shape), s.withWorld w)
  | .keptPreview id => (.state ((CodeHealth.keptPreview s.world.cache id).erase Preview.shape), s)
  | .change who c =>
    let (r, w) := c.mutation.run (s.clients who) s.world
    (.outcome (r.map c.shape.toPlain), s.withWorld w)
  | .dispatch e id =>
    let (w, report) := s.world.dispatch e id
    (.invalidation report, s.withWorld w)
  | .screen name who step =>
    let (answer, v, s) := s.screenStep (s.screenOf name who) step
    (answer, s.putScreen name v)
  | .newPoller name who runId intervalMs => (.done, s.putPoller name (who, { runId, intervalMs }))
  | .poll name =>
    match s.pollers.lookup name with
    | none => (.done, s)
    | some (who, p) =>
      let (state, p, w) := p.poll (s.clients who) s.world
      ((state.map fun state => .state (state.erase Run.shape)).getD .overflow,
        (s.withWorld w).putPoller name (who, p))
  | .run name maxPolls =>
    match s.pollers.lookup name with
    | none => (.done, s)
    | some (who, p) =>
      let (states, p, w) := p.run (s.clients who) s.world maxPolls
      ((states.map fun states => .seen (states.map (·.erase Run.shape))).getD .overflow,
        (s.withWorld w).putPoller name (who, p))
  | .lookAtPoller _ => (.done, s)

/-- The answers to several steps in turn. -/
def run [DecidableEq ι] (s : Session ι β) : List (Step ι) → List Answer × Session ι β
  | [] => ([], s)
  | t :: ts =>
    let (x, s) := s.step t
    let (xs, s) := s.run ts
    (x :: xs, s)

end Session

end CodeHealth
