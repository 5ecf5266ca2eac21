import CodeHealth.Proofs.Cache.History
import CodeHealth.Session.Steps
import Mathlib

/-! The journal of a session: the fetches that were made and the events that were dispatched, in
order, as they can be seen from outside. A fetch shows as a request in the world, a confirmed
change as its answer, and the end of a run as a poller that has just stopped. -/

namespace CodeHealth

/-- Something that has happened in a session. -/
inductive Note where
  | fetched (q : Query) (outcome : Except Fault q.Answer)
  | dispatched (e : Event) (id : Option String)

namespace Note

/-- The answer to `q` that has been fetched. -/
def answer? (q : Query) : Note → Option q.Answer
  | fetched r (.ok a) => if h : r = q then some (h ▸ a) else none
  | _ => none

/-- A fetch of `q` has failed, or an event that reaches its key has been dispatched. -/
def Spoils (q : Query) : Note → Prop
  | fetched r (.error _) => r = q
  | dispatched e id => e.reaches id q.key
  | _ => False

instance (q : Query) : DecidablePred (Spoils q)
  | fetched r (.error _) => inferInstanceAs (Decidable (r = q))
  | fetched _ (.ok _) => isFalse id
  | dispatched e id => inferInstanceAs (Decidable (e.reaches id q.key = true))

end Note

/-- Some fetch of `q` has succeeded, and nothing has spoilt its answer since. -/
def Standing (q : Query) : List Note → Prop :=
  Since (fun n => ¬ n.Spoils q) (fun n => (n.answer? q).isSome)

instance (q : Query) (notes : List Note) : Decidable (Standing q notes) :=
  inferInstanceAs (Decidable (Since _ _ notes))

/-- What the last successful fetch of `q` has brought. -/
def latest? (q : Query) (notes : List Note) : Option q.Answer :=
  (notes.filterMap (Note.answer? q)).getLast?

/-! ### The notes of single actions -/

section

variable {β : Type} [Backend β]

/-- A fetch of `q`, if a request has been sent on the way from `w` to `w'`. -/
def Query.notes (q : Query) (c : Client) (w w' : World β) : List Note :=
  if w'.sent = w.sent then [] else [.fetched q (c.ask q.call w).1]

/-- The event of a change that has been confirmed. -/
def Change.notes (c : Change) : Except Explanation c.Answer → List Note
  | .ok _ => [.dispatched c.event c.entity?]
  | .error _ => []

namespace Poller

/-- The event of a completed run. -/
def announced (run : Run) : List Note :=
  if run.status = .completed then [.dispatched .analysisCompleted (some run.id)] else []

/-- A look at a run, and its end if the poller has stopped at this look. -/
def notes (p : Poller) (c : Client) (w : World β) : List Note :=
  let (state, p', w') := p.poll c w
  (Query.runStatus p.runId).notes c w w' ++
    if p'.phase = p.phase then [] else ((state.bind (·.data)).map announced).getD []

/-- The looks of `p` while it follows its run. -/
def followNotes (p : Poller) (c : Client) (w : World β) : ℕ → List Note
  | 0 => p.notes c w
  | more + 1 =>
    let (state, p', w') := p.poll c w
    p.notes c w ++
      if state = none ∨ p'.phase = .stopped then [] else p'.followNotes c w' more

end Poller

namespace Session

variable {ι : Type} [DecidableEq ι]

def screenNotes (s : Session ι β) (v : Screen ι) : ScreenStep → List Note
  | .load => (Query.findings v.list.filters v.list.params).notes (s.clients v.who) s.world
      (v.list.load (s.clients v.who) s.world).2
  | .summary => (Query.findingsSummary v.list.filters.repositoryId).notes (s.clients v.who) s.world
      (v.list.summary (s.clients v.who) s.world).2
  | .bulkMark status reason => (Change.triageAll v.list.selection status reason).notes
      (v.list.bulkMark status reason (s.clients v.who) s.world).1
  | _ => []

/-- What happens in one step. -/
def notes (s : Session ι β) : Step ι → List Note
  | .read who q =>
    q.notes (s.clients who) s.world (q.handle.read (s.clients who) s.world).2
  | .revalidate who q =>
    q.notes (s.clients who) s.world (q.handle.revalidate (s.clients who) s.world).2
  | .change who c => c.notes (c.mutation.run (s.clients who) s.world).1
  | .dispatch e id => [.dispatched e id]
  | .screen name who step => s.screenNotes (s.screenOf name who) step
  | .poll name =>
    match s.pollers.lookup name with
    | none => []
    | some (who, p) => p.notes (s.clients who) s.world
  | .run name maxPolls =>
    match s.pollers.lookup name with
    | none => []
    | some (who, p) => p.followNotes (s.clients who) s.world (maxPolls - 1)
  | _ => []

/-- What happens in several steps in turn. -/
def journal (s : Session ι β) : List (Step ι) → List Note
  | [] => []
  | t :: ts => s.notes t ++ (s.step t).2.journal ts

end Session

end

/-! ### Answers that stand -/

section

variable (q : Query) (ns : List Note) (n : Note)

theorem standing_concat : Standing q (ns ++ [n]) ↔
    (n.answer? q).isSome ∨ (¬ n.Spoils q ∧ Standing q ns) :=
  since_concat ns n

theorem latest?_concat : latest? q (ns ++ [n]) = (n.answer? q).or (latest? q ns) := by
  cases h : n.answer? q <;> simp [latest?, h]

end

end CodeHealth
