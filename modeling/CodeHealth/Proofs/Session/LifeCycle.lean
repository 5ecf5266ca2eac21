import CodeHealth.Proofs.Session.Polling
import Mathlib

/-! The life of a poller, from its start through any calls, whatever happens around it between
them: gates open and close, other clients make their steps, and the service answers as it likes. The
count of a poller holds less than 2 ^ 32 requests, and a call that sends one more fails. The poller
of an analysis is one such poller; its callback dispatches the event of a completed run. -/

namespace CodeHealth

namespace StatusPoller

open Deed (asked stops updates sleeps)

variable {α ε β : Type}

/-- A call to a poller, or anything that happens around it. -/
inductive Call (α ε β : Type) where
  | poll
  | run (maxPolls : ℕ) (g : Audience α ε β)
  | meanwhile (f : Scene ε β → Scene ε β)

/-- A poller in its surroundings, and what it has done so far. -/
structure Life (α ε β : Type) where
  poller : StatusPoller α ε β
  scene : Scene ε β
  deeds : List (Deed α β) := []

variable [Backend β]

def Life.after (x : Life α ε β) (y : Polled α ε β) : Life α ε β :=
  ⟨y.poller, y.scene, x.deeds ++ y.deeds⟩

def Life.call (x : Life α ε β) : Call α ε β → Life α ε β
  | .poll => x.after (x.poller.poll x.scene)
  | .run maxPolls g => x.after (x.poller.run g maxPolls x.scene 0)
  | .meanwhile f => { x with scene := f x.scene }

/-- A life of several calls. -/
def Life.live (x : Life α ε β) (calls : List (Call α ε β)) : Life α ε β := calls.foldl Life.call x

namespace Life

variable {x : Life α ε β} {p : StatusPoller α ε β}

theorem stretch_call (h : Stretch p x.deeds x.poller) (c : Call α ε β) :
    Stretch p (x.call c).deeds (x.call c).poller := by
  cases c with
  | poll => exact h.trans (x.poller.stretch_poll x.scene)
  | run maxPolls g => exact h.trans (x.poller.stretch_run g x.scene maxPolls 0)
  | meanwhile f => exact h

theorem stretch_live (h : Stretch p x.deeds x.poller) (calls : List (Call α ε β)) :
    Stretch p (x.live calls).deeds (x.live calls).poller := by
  induction calls generalizing x with
  | nil => exact h
  | cons c calls ih => exact ih (stretch_call h c)

end Life

/-! ### What holds at all times -/

/-- What holds of a poller at any time of its life: it has counted its requests as long as there
are numbers for them, and no call has failed before. It has called back once if it has stopped, and
not at all otherwise. Since it stopped it has repeated the state that stopped it. Nothing changes
this any more: every further poll gives that state and leaves the surroundings alone, and a run
passes it on once. -/
structure Life.Orderly (x : Life α ε β) : Prop where
  polls : (asked x.deeds).length < 2 ^ 32 → x.poller.polls.toNat = (asked x.deeds).length
  fails : .fail ∈ x.deeds ↔ 2 ^ 32 ≤ (asked x.deeds).length
  polling : x.poller.phase = .polling → stops x.deeds = []
  stopped : x.poller.phase = .stopped → ∃ before w w' state a after,
    x.deeds = before ++ .look w w' state :: .stop a :: after ∧ stops x.deeds = [a] ∧
    state.data = some a ∧ x.poller.isTerminal a ∧ (∀ d ∈ after, d.Repeats state) ∧
    (∀ s, x.poller.poll s = ⟨some state, x.poller, s, [.look s.world s.world state]⟩) ∧
    (∀ g maxPolls s, x.poller.run g maxPolls s 0 =
      ⟨some state, x.poller, g.update state s, [.look s.world s.world state, .update state]⟩) ∧
    ∀ calls, (x.live calls).poller = x.poller

theorem Life.poller_live_of_stopped (x : Life α ε β) (hphase : x.poller.phase = .stopped)
    (calls : List (Call α ε β)) : (x.live calls).poller = x.poller := by
  induction calls generalizing x with
  | nil => rfl
  | cons c calls ih =>
    have hcall : (x.call c).poller = x.poller := by
      cases c with
      | poll => exact ((x.poller.stretch_poll x.scene).stays hphase).1
      | run maxPolls g => exact ((x.poller.stretch_run g x.scene maxPolls 0).stays hphase).1
      | meanwhile f => rfl
    rw [← hcall] at hphase
    exact (ih _ hphase).trans hcall

theorem Life.orderly_live (handle : Handle α) (isTerminal : α → Bool) (intervalMs : UInt64)
    (onStop : α → Scene ε β → Scene ε β) (s : Scene ε β) (calls : List (Call α ε β)) :
    (Life.live ⟨start handle isTerminal intervalMs onStop, s, []⟩ calls).Orderly := by
  have hlife := Life.stretch_live (x := ⟨start handle isTerminal intervalMs onStop, s, []⟩)
    (Stretch.refl _) calls
  set x := Life.live ⟨start handle isTerminal intervalMs onStop, s, []⟩ calls
  have hzero : (start handle isTerminal intervalMs onStop).polls.toNat = 0 := rfl
  have hpolls := hlife.polls_of_lt
  have hfails := hlife.fail_mem_iff
  rw [hzero, zero_add] at hpolls hfails
  refine ⟨hpolls, hfails, fun h => (hlife.goesOn h).2, fun hphase => ?_⟩
  obtain ⟨before, w, w', state, a, after, hdeeds, hbefore, hlast, hdata, ha, hafter⟩ :=
    hlife.ends rfl hphase
  have hpoll (s : Scene ε β) :
      x.poller.poll s = ⟨some state, x.poller, s, [.look s.world s.world state]⟩ := by
    rw [x.poller.poll_of_stopped s hphase, hlast, Option.getD_some]
  refine ⟨before, w, w', state, a, after, hdeeds, ?_, hdata, ?_, hafter, hpoll,
    fun g maxPolls s => ?_, x.poller_live_of_stopped hphase⟩
  · have hstops : stops (.look w w' state :: .stop a :: after) = a :: stops after := rfl
    rw [hdeeds, stops, List.filterMap_append, ← stops, ← stops, hbefore, hstops,
      Deed.stops_of_repeats hafter, List.nil_append]
  · rw [hlife.isTerminal]
    exact ha
  · have hover : (x.poller.poll s).Over := by
      rw [hpoll]
      exact .inr hphase
    rw [x.poller.run_of_over g s (.inl hover), attemptDeeds_zero, hpoll]
    rfl

/-! ### Runs come to an end -/

/-- The run makes `n` attempts, none of which fails: up to the first that leaves the poller stopped,
but no more than it may and at least one. Every attempt is passed on, the last one is the result, and
there is a pause between any two. -/
structure RunEnds (p : StatusPoller α ε β) (g : Audience α ε β) (maxPolls : ℕ) (s : Scene ε β)
    (n : ℕ) : Prop where
  isLeast : IsLeast ({n | 0 < n ∧ (p.attempt g s (n - 1)).poller.phase = .stopped} ∪
    {max 1 maxPolls}) n
  state : (p.run g maxPolls s 0).state = (p.attempt g s (n - 1)).state
  poller : (p.run g maxPolls s 0).poller = (p.attempt g s (n - 1)).poller
  scene : (p.run g maxPolls s 0).scene =
    g.hear (p.attempt g s (n - 1)).state (p.attempt g s (n - 1)).scene
  deeds : (p.run g maxPolls s 0).deeds = p.runDeeds g s n
  updates : (updates (p.run g maxPolls s 0).deeds).map some =
    (List.range n).map fun k => (p.attempt g s k).state
  sleeps : sleeps (p.run g maxPolls s 0).deeds = List.replicate (n - 1) p.intervalMs

/-- A run that gives a state has come to its end. -/
theorem runEnds (p : StatusPoller α ε β) (g : Audience α ε β) (maxPolls : ℕ) (s : Scene ε β)
    (hstate : (p.run g maxPolls s 0).state.isSome) : ∃ n, p.RunEnds g maxPolls s n := by
  obtain ⟨m, hm, hbefore, hend, hrun⟩ := p.run_eq_runTo g s maxPolls 0
  rw [Nat.sub_zero] at hm hend
  rw [hrun] at hstate
  have hstates (k : ℕ) (hk : k ≤ m) : (p.attempt g s k).state.isSome := by
    obtain hlt | rfl := hk.lt_or_eq
    · exact Option.isSome_iff_ne_none.2 fun hnone => hbefore k hlt (.inl hnone)
    · exact hstate
  refine ⟨m + 1, ⟨?_, ?_⟩, ?_, ?_, ?_, ?_, ?_, ?_⟩
  · refine hend.imp (fun hover => ⟨by omega, hover.resolve_left ?_⟩) id
    exact Option.isSome_iff_ne_none.1 (hstates m le_rfl)
  · rintro n (⟨hn, hstopped⟩ | rfl)
    · by_contra hlt
      exact hbefore (n - 1) (by omega) (.inr hstopped)
    · exact hm
  · rw [hrun, Nat.add_sub_cancel]
    rfl
  · rw [hrun, Nat.add_sub_cancel]
    rfl
  · rw [hrun, Nat.add_sub_cancel]
    rfl
  · rw [hrun]
    rfl
  · rw [hrun]
    exact p.updates_runDeeds g s m hstates
  · rw [hrun, Nat.add_sub_cancel]
    exact p.sleeps_runDeeds g s m

/-- Only a run that sends one request too many has no end of this kind. -/
theorem runEnds_or_fails (p : StatusPoller α ε β) (g : Audience α ε β) (maxPolls : ℕ)
    (s : Scene ε β) : (∃ n, p.RunEnds g maxPolls s n) ∨
      (p.run g maxPolls s 0).state = none ∧
        2 ^ 32 ≤ p.polls.toNat + (asked (p.run g maxPolls s 0).deeds).length := by
  cases hstate : (p.run g maxPolls s 0).state with
  | some state => exact .inl (p.runEnds g maxPolls s (by rw [hstate]; rfl))
  | none =>
    refine .inr ⟨rfl, (p.stretch_run g s maxPolls 0).fail_mem_iff.1 ?_⟩
    obtain ⟨m, -, -, -, hrun⟩ := p.run_eq_runTo g s maxPolls 0
    rw [hrun] at hstate ⊢
    exact p.fail_mem_runDeeds g s m hstate

end StatusPoller

/-! ### The poller of an analysis -/

namespace Poller

open Deed (stops updates)

variable {ε β : Type} [Backend β]

theorem poll_toStatusPoller (p : Poller) (s : Scene ε β) :
    (p.toStatusPoller.poll s).state = (p.poll s.client s.world).1 ∧
    (p.toStatusPoller.poll s).poller = (p.poll s.client s.world).2.1.toStatusPoller ∧
    (p.toStatusPoller.poll s).scene = { s with world := (p.poll s.client s.world).2.2 } := by
  unfold poll StatusPoller.poll
  cases hphase : p.phase with
  | stopped => simp [toStatusPoller, hphase]
  | polling =>
    simp only [toStatusPoller, hphase]
    split_ifs with hloading
    · simp [hphase]
    · cases Std.PRange.succ? p.polls with
      | none => simp [hphase]
      | some polls =>
        cases (p.handle.revalidate s.client s.world).1.data.filter (·.status.isTerminal) with
        | none => simp [handle]
        | some run => simp [handle]

theorem follow_toStatusPoller (p : Poller) (s : Scene ε β) (maxPolls j : ℕ) :
    let x := p.toStatusPoller.run .quiet maxPolls s j
    let (states, p', w) := p.follow s.client s.world (maxPolls - (j + 1))
    (x.state.map fun _ => updates x.deeds) = states ∧ x.poller = p'.toStatusPoller ∧
      x.scene = { s with world := w } := by
  obtain ⟨more, hmore⟩ : ∃ more, more = maxPolls - (j + 1) := ⟨_, rfl⟩
  rw [← hmore]
  induction more generalizing p s j with
  | zero =>
    obtain ⟨hstate, hpoller, hscene⟩ := p.poll_toStatusPoller s
    rcases hpoll : p.poll s.client s.world with ⟨state, p', w⟩
    simp only [hpoll] at hstate hpoller hscene
    rw [p.toStatusPoller.run_of_over .quiet s (.inr (by omega))]
    simp only [follow, hpoll]
    refine ⟨?_, hpoller, (Audience.hear_quiet ..).trans hscene⟩
    rw [StatusPoller.updates_attemptDeeds_zero, StatusPoller.attempt_zero, hstate]
    cases state <;> rfl
  | succ more ih =>
    obtain ⟨hstate, hpoller, hscene⟩ := p.poll_toStatusPoller s
    rcases hpoll : p.poll s.client s.world with ⟨_ | state, p', w⟩
    · simp only [hpoll] at hstate hpoller hscene
      have hover : (p.toStatusPoller.poll s).Over := .inl hstate
      rw [p.toStatusPoller.run_of_over .quiet s (.inl hover)]
      simp only [follow, hpoll]
      exact ⟨by rw [hstate]; rfl, hpoller, (Audience.hear_quiet ..).trans hscene⟩
    · simp only [hpoll] at hstate hpoller hscene
      have hphase : (p.toStatusPoller.poll s).poller.phase = p'.phase := by
        rw [hpoller]
        rfl
      have hfirst : updates (p.toStatusPoller.attemptDeeds .quiet s 0) = [state] := by
        rw [StatusPoller.updates_attemptDeeds_zero, StatusPoller.attempt_zero, hstate]
        rfl
      by_cases hstopped : p'.phase = .stopped
      · rw [p.toStatusPoller.run_of_over .quiet s (.inl (.inr (hphase.trans hstopped)))]
        simp only [follow, hpoll, if_pos hstopped]
        refine ⟨?_, hpoller, (Audience.hear_quiet ..).trans hscene⟩
        rw [hstate, hfirst]
        rfl
      · have hmore' : ¬ ((p.toStatusPoller.poll s).Over ∨ maxPolls ≤ j + 1) := by
          rw [Polled.Over, hphase, hstate]
          simp only [reduceCtorEq, false_or, not_or]
          exact ⟨hstopped, by omega⟩
        have hround : StatusPoller.round .quiet (p.toStatusPoller, s) =
            (p'.toStatusPoller, { s with world := w }) :=
          Prod.ext hpoller ((Audience.hear_quiet ..).trans hscene)
        obtain ⟨hstates, hrest⟩ := ih p' { s with world := w } (j + 1) (by omega)
        rw [p.toStatusPoller.run_of_not_over .quiet s hmore', hround]
        simp only [follow, hpoll, if_neg hstopped]
        refine ⟨?_, hrest⟩
        rw [← hstates, Option.map_map]
        congr 1
        funext _
        rw [updates, List.filterMap_append, ← updates, hfirst]
        rfl

theorem run_toStatusPoller (p : Poller) (s : Scene ε β) (maxPolls : ℕ) :
    let x := p.toStatusPoller.run .quiet maxPolls s 0
    let (states, p', w) := p.run s.client s.world maxPolls
    (x.state.map fun _ => updates x.deeds) = states ∧ x.poller = p'.toStatusPoller ∧
      x.scene = { s with world := w } :=
  p.follow_toStatusPoller s maxPolls 0

/-- What the poller of an analysis does to the cache when it stops, and how often. -/
structure Announces (x : StatusPoller.Life Run ε β) : Prop where
  atMostOnce : ((stops x.deeds).filter (·.status = .completed)).length ≤ 1
  completed : ∀ run s, run.status = .completed → x.poller.onStop run s =
    { s with world := (s.world.dispatch .analysisCompleted (some run.id)).1 }
  failed : ∀ run s, run.status ≠ .completed → x.poller.onStop run s = s

theorem announces_live (runId : String) (intervalMs : UInt64) (s : Scene ε β)
    (calls : List (StatusPoller.Call Run ε β)) :
    Announces (StatusPoller.Life.live
      ⟨({ runId, intervalMs } : Poller).toStatusPoller, s, []⟩ calls) := by
  have hlife := StatusPoller.Life.stretch_live
    (x := ⟨({ runId, intervalMs } : Poller).toStatusPoller, s, []⟩) (.refl _) calls
  have horderly := StatusPoller.Life.orderly_live (({ runId, intervalMs } : Poller).handle)
    (·.status.isTerminal) intervalMs (fun run s => { s with world := announce s.world run }) s calls
  refine ⟨?_, fun run s hrun => ?_, fun run s hrun => ?_⟩
  · refine (List.length_filter_le ..).trans ?_
    cases hphase : (StatusPoller.Life.live
        ⟨({ runId, intervalMs } : Poller).toStatusPoller, s, []⟩ calls).poller.phase with
    | polling => simp [(hlife.goesOn hphase).2]
    | stopped =>
      obtain ⟨_, _, _, _, _, _, -, hstops, -⟩ := horderly.stopped hphase
      exact (congrArg List.length hstops).le
  · rw [hlife.onStop]
    simp [toStatusPoller, announce, hrun]
  · rw [hlife.onStop]
    simp [toStatusPoller, announce, hrun]

end Poller

end CodeHealth
