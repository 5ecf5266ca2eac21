import CodeHealth.Session.Poller

/-! Pollers of any kind. A poller looks at something through its handle until it has come to an
end; then it calls back, and from then on it repeats what it saw last. Between its looks anything
may happen around it. What it does itself is recorded as deeds. A call fails at a look whose request
is one too many for its count. -/
namespace CodeHealth

open Std.PRange (succ?)

/-- What surrounds a poller: the client that it looks through, the world, and all else. -/
structure Scene (ε β : Type) where
  client : Client
  world : World β
  rest : ε

/-- What a poller does. -/
inductive Deed (α β : Type) where
  /-- One poll: the world before and after it, and the state that is seen. -/
  | look (before after : World β) (state : ReadState α)
  /-- The request of the look cannot be counted; the call ends without a state. -/
  | fail
  /-- The callback is called with the terminal value. -/
  | stop (a : α)
  /-- A run passes a state on. -/
  | update (state : ReadState α)
  | sleep (ms : UInt64)

structure StatusPoller (α ε β : Type) where
  handle : Handle α
  isTerminal : α → Bool
  intervalMs : UInt64
  /-- The callback, and what it does to the surroundings. -/
  onStop : α → Scene ε β → Scene ε β
  phase : PollPhase := .polling
  /-- How many requests it has sent. -/
  polls : UInt32 := 0
  last : Option (ReadState α) := none

/-- Those who attend a run: one is told of every state, the other waits between the polls. -/
structure Audience (α ε β : Type) where
  update : ReadState α → Scene ε β → Scene ε β
  sleep : UInt64 → Scene ε β → Scene ε β

/-- The audience is told of a state, if there is one. -/
def Audience.hear {α ε β : Type} (g : Audience α ε β) (state : Option (ReadState α))
    (s : Scene ε β) : Scene ε β :=
  match state with
  | some state => g.update state s
  | none => s

/-- Nobody attends. -/
def Audience.quiet {α ε β : Type} : Audience α ε β := ⟨fun _ s => s, fun _ s => s⟩

/-- What comes of a call to a poller. -/
structure Polled (α ε β : Type) where
  /-- The state that is given, unless the call fails. -/
  state : Option (ReadState α)
  poller : StatusPoller α ε β
  scene : Scene ε β
  deeds : List (Deed α β)

/-- Nothing is to come after this call: it has failed, or the poller has stopped. -/
def Polled.Over {α ε β : Type} (x : Polled α ε β) : Prop :=
  x.state = none ∨ x.poller.phase = .stopped

instance {α ε β : Type} (x : Polled α ε β) : Decidable x.Over :=
  inferInstanceAs (Decidable (_ ∨ _))

namespace StatusPoller

variable {α ε β : Type}

/-- A poller that has not been called yet. -/
def start (handle : Handle α) (isTerminal : α → Bool) (intervalMs : UInt64)
    (onStop : α → Scene ε β → Scene ε β) : StatusPoller α ε β :=
  { handle, isTerminal, intervalMs, onStop }

variable [Backend β]

/-- One look. -/
def poll (p : StatusPoller α ε β) (s : Scene ε β) : Polled α ε β :=
  match p.phase with
  | .stopped =>
    let state := p.last.getD .pending
    ⟨some state, p, s, [.look s.world s.world state]⟩
  | .polling =>
    let (state, world) := p.handle.revalidate s.client s.world
    let look := .look s.world world state
    let s := { s with world }
    if state.loading then ⟨some state, p, s, [look]⟩
    else
      match succ? p.polls with
      | none => ⟨none, p, s, [look, .fail]⟩
      | some polls =>
        let p := { p with polls, last := some state }
        match state.data.filter p.isTerminal with
        | some a => ⟨some state, { p with phase := .stopped }, p.onStop a s, [look, .stop a]⟩
        | none => ⟨some state, p, s, [look]⟩

/-- Polls until the end has come or the attempts, of which some have been made already, are used
up; at least once. A poll that fails ends the run at once. -/
def run (p : StatusPoller α ε β) (g : Audience α ε β) (maxPolls : Nat) (s : Scene ε β)
    (attempts : Nat) : Polled α ε β :=
  let x := p.poll s
  let s := g.hear x.state x.scene
  let deeds := x.deeds ++ x.state.toList.map .update
  if x.Over ∨ maxPolls ≤ attempts + 1 then ⟨x.state, x.poller, s, deeds⟩
  else
    let y := x.poller.run g maxPolls (g.sleep p.intervalMs s) (attempts + 1)
    { y with deeds := deeds ++ .sleep p.intervalMs :: y.deeds }
termination_by maxPolls - attempts

end StatusPoller

namespace Poller

variable {ε β : Type}

/-- The poller of an analysis as one of many kinds: it announces a run that is over. -/
def toStatusPoller (p : Poller) : StatusPoller Run ε β where
  handle := p.handle
  isTerminal run := run.status.isTerminal
  intervalMs := p.intervalMs
  onStop run s := { s with world := announce s.world run }
  phase := p.phase
  polls := p.polls
  last := p.last

end Poller

end CodeHealth
