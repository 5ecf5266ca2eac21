import CodeHealth.Session.Mutation

/-! Following one run of the analysis until it is over. A poller that has stopped repeats what it
saw last and sends nothing. Requests are counted in 32 bits; a poll whose request is one too many
fails. -/
namespace CodeHealth

open Std.PRange (succ?)

inductive PollPhase where
  | polling
  | stopped
  deriving DecidableEq

namespace PollPhase

def name : PollPhase → String
  | polling => "polling"
  | stopped => "stopped"

end PollPhase

structure Poller where
  runId : String
  intervalMs : UInt64
  phase : PollPhase := .polling
  /-- How many requests it has sent. -/
  polls : UInt32 := 0
  last : Option (ReadState Run) := none

namespace Poller

variable {β : Type} [Backend β]

def handle (p : Poller) : Handle Run := (Query.runStatus p.runId).handle

/-- A completed run makes what the analysis produces old. -/
def announce (w : World β) (run : Run) : World β :=
  if run.status = .completed then (w.dispatch .analysisCompleted (some run.id)).1 else w

/-- One look at the run. If its request cannot be counted, there is no state, and the poller stays
as it was. -/
def poll (p : Poller) (c : Client) (w : World β) : Option (ReadState Run) × Poller × World β :=
  match p.phase with
  | .stopped => (some (p.last.getD .pending), p, w)
  | .polling =>
    let (state, w) := p.handle.revalidate c w
    if state.loading then (some state, p, w)
    else
      match succ? p.polls with
      | none => (none, p, w)
      | some polls =>
        let p := { p with polls, last := some state }
        match state.data.filter (·.status.isTerminal) with
        | some run => (some state, { p with phase := .stopped }, announce w run)
        | none => (some state, p, w)

/-- Looks once and then up to `more` times again, until the run is over; gives all that was seen,
and pauses between looks for the interval. A look that fails ends it, and nothing is given. -/
def follow (p : Poller) (c : Client) (w : World β) :
    Nat → Option (List (ReadState Run)) × Poller × World β
  | 0 =>
    let (state, p, w) := p.poll c w
    (state.map ([·]), p, w)
  | more + 1 =>
    match p.poll c w with
    | (none, p, w) => (none, p, w)
    | (some state, p, w) =>
      if p.phase = .stopped then (some [state], p, w)
      else
        let (states, p, w) := p.follow c w more
        (states.map (state :: ·), p, w)

/-- Looks at least once and at most `maxPolls` times. -/
def run (p : Poller) (c : Client) (w : World β) (maxPolls : Nat) :
    Option (List (ReadState Run)) × Poller × World β :=
  p.follow c w (maxPolls - 1)

end Poller

end CodeHealth
