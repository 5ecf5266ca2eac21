import CodeHealth.Proofs.Session.LifeCycle
import CodeHealth.Session.FindingsList
import Mathlib

/-! Closed gates. Several clients with lists of findings and pollers work on one world. What is
done through a client that is not ready is refused: it has a fixed answer that tells nothing about
the world, and it leaves everything as it was. So a run without those acts goes through the same
states, and all other acts have the same answers in it. -/

namespace CodeHealth

open Deed (asked stops updates sleeps)

/-! ### Pollers at a closed gate -/

/-- Nobody who attends the run opens the gate. -/
structure Audience.KeepsClosed {α ε β : Type} (g : Audience α ε β) : Prop where
  update : ∀ state s, s.client.ready = false → (g.update state s).client.ready = false
  sleep : ∀ ms s, s.client.ready = false → (g.sleep ms s).client.ready = false

theorem Audience.keepsClosed_quiet {α ε β : Type} : (quiet : Audience α ε β).KeepsClosed :=
  ⟨fun _ _ h => h, fun _ _ h => h⟩

/-- What comes of a call to a poller, for those who made it. -/
structure Watched (α : Type) where
  /-- The state that is given, unless the call fails. -/
  state : Option (ReadState α)
  updates : List (ReadState α)
  sleeps : List UInt64
  /-- The values that the callback has been called with. -/
  stops : List α

def Polled.watched {α ε β : Type} (x : Polled α ε β) : Watched α :=
  ⟨x.state, updates x.deeds, sleeps x.deeds, stops x.deeds⟩

namespace StatusPoller

variable {α ε β : Type} [Backend β] (p : StatusPoller α ε β) (g : Audience α ε β) (s : Scene ε β)

/-- What a poller that is not let through, or has stopped, gives. -/
def still : ReadState α :=
  match p.phase with
  | .polling => .pending
  | .stopped => p.last.getD .pending

/-- How many attempts a run makes then. -/
def stillAttempts (maxPolls : ℕ) : ℕ :=
  match p.phase with
  | .polling => max 1 maxPolls
  | .stopped => 1

variable {s}

theorem poll_of_closed (hclosed : s.client.ready = false) :
    p.poll s = ⟨some p.still, p, s, [.look s.world s.world p.still]⟩ := by
  unfold still
  cases hphase : p.phase with
  | polling => exact p.poll_of_not_ready s hphase hclosed
  | stopped => exact p.poll_of_stopped s hphase

theorem round_of_closed (hclosed : s.client.ready = false) :
    round g (p, s) = (p, g.sleep p.intervalMs (g.update p.still s)) := by
  rw [round, p.poll_of_closed hclosed]
  rfl

/-- Round after round nothing happens but what the audience does. -/
theorem attempt_of_closed (hg : g.KeepsClosed) (hclosed : s.client.ready = false) (k : ℕ) :
    (p.attempt g s k).state = some p.still ∧ (p.attempt g s k).poller = p := by
  induction k generalizing s with
  | zero =>
    rw [attempt_zero, p.poll_of_closed hclosed]
    exact ⟨rfl, rfl⟩
  | succ k ih =>
    rw [attempt_succ, p.round_of_closed g hclosed]
    exact ih (hg.sleep _ _ (hg.update _ _ hclosed))

theorem asked_runDeeds_of_closed (hg : g.KeepsClosed) (hclosed : s.client.ready = false) (m : ℕ) :
    asked (p.runDeeds g s (m + 1)) = [] := by
  have hfirst {s : Scene ε β} (h : s.client.ready = false) :
      asked (p.attemptDeeds g s 0) = [] := by
    rw [attemptDeeds_zero, p.poll_of_closed h]
    simp [asked, Deed.requests]
  induction m generalizing s with
  | zero => rw [zero_add, runDeeds_one, hfirst hclosed]
  | succ m ih =>
    have hrest := ih (hg.sleep p.intervalMs _ (hg.update p.still _ hclosed))
    rw [runDeeds_succ, p.round_of_closed g hclosed, asked, List.flatMap_append, ← asked,
      hfirst hclosed]
    exact hrest

theorem scene_attempt_quiet (hclosed : s.client.ready = false) (k : ℕ) :
    (p.attempt .quiet s k).scene = s := by
  have hround : Function.IsFixedPt (round .quiet) (p, s) := p.round_of_closed .quiet hclosed
  rw [attempt, hround.iterate k, p.poll_of_closed hclosed]

/-- What is seen of so many attempts that are not let through. -/
def refusal (attempts : ℕ) : Watched α :=
  ⟨some p.still, List.replicate attempts p.still, List.replicate (attempts - 1) p.intervalMs, []⟩

/-- What comes of a call that is not let through, or is made to a poller that has stopped. -/
structure Idle (p : StatusPoller α ε β) (attempts : ℕ) (x : Polled α ε β) : Prop where
  watched : x.watched = p.refusal attempts
  poller : x.poller = p
  asked : asked x.deeds = []

theorem idle_poll (hclosed : s.client.ready = false) : p.Idle 0 (p.poll s) := by
  rw [p.poll_of_closed hclosed]
  exact ⟨rfl, rfl, by simp [asked, Deed.requests]⟩

/-- At a closed gate a run uses up its attempts, or makes one if the poller has stopped. -/
theorem attempts_of_closed (hg : g.KeepsClosed) (hclosed : s.client.ready = false) {maxPolls n : ℕ}
    (hn : p.RunEnds g maxPolls s n) : n = p.stillAttempts maxPolls := by
  have hpoller (k : ℕ) : (p.attempt g s k).poller = p := (p.attempt_of_closed g hg hclosed k).2
  unfold stillAttempts
  cases hphase : p.phase with
  | polling =>
    obtain ⟨-, hstopped⟩ | hlast := hn.isLeast.1
    · rw [hpoller, hphase] at hstopped
      contradiction
    · exact hlast
  | stopped =>
    have hfirst : n ≤ 1 := hn.isLeast.2 (.inl ⟨one_pos, by rw [hpoller, hphase]⟩)
    refine hfirst.antisymm ?_
    obtain ⟨hpos, -⟩ | hlast := hn.isLeast.1
    · exact hpos
    · exact (le_max_left 1 maxPolls).trans hlast.ge

/-- A run at a closed gate comes to its end, since nothing has to be counted. -/
theorem runEnds_of_closed (hg : g.KeepsClosed) (hclosed : s.client.ready = false) (maxPolls : ℕ) :
    p.RunEnds g maxPolls s (p.stillAttempts maxPolls) := by
  have hstate : (p.run g maxPolls s 0).state = some p.still := by
    obtain ⟨m, -, -, -, hrun⟩ := p.run_eq_runTo g s maxPolls 0
    rw [hrun]
    exact (p.attempt_of_closed g hg hclosed m).1
  obtain ⟨n, hn⟩ := p.runEnds g maxPolls s (by rw [hstate]; rfl)
  rwa [← p.attempts_of_closed g hg hclosed hn]

/-- None of these attempts comes to anything. -/
theorem idle_run (hg : g.KeepsClosed) (hclosed : s.client.ready = false) (maxPolls : ℕ) :
    p.Idle (p.stillAttempts maxPolls) (p.run g maxPolls s 0) := by
  have hn := p.runEnds_of_closed g hg hclosed maxPolls
  have hattempt (k : ℕ) := p.attempt_of_closed g hg hclosed k
  have hpoller : (p.run g maxPolls s 0).poller = p := hn.poller.trans (hattempt _).2
  have hlife := p.stretch_run g s maxPolls 0
  rw [hpoller] at hlife
  refine ⟨?_, hpoller, ?_⟩
  · have hstops : stops (p.run g maxPolls s 0).deeds = [] := by
      cases hphase : p.phase with
      | polling => exact (hlife.goesOn hphase).2
      | stopped => exact Deed.stops_of_repeats (hlife.stays hphase).2
    have hupdates : updates (p.run g maxPolls s 0).deeds =
        List.replicate (p.stillAttempts maxPolls) p.still := by
      refine List.map_injective_iff.2 (Option.some_injective _) ?_
      rw [hn.updates]
      simp only [(hattempt _).1, List.map_const', List.length_range, List.map_replicate]
    rw [Polled.watched, hupdates, hn.sleeps, hn.state, hstops, (hattempt _).1, refusal]
  · obtain ⟨m, -, -, -, hrun⟩ := p.run_eq_runTo g s maxPolls 0
    rw [hrun]
    exact p.asked_runDeeds_of_closed g hg hclosed m

end StatusPoller

/-! ### Several clients at work -/

/-- Clients that `ι` names share a world. Some have lists of findings, which `κ` names, and some
have pollers, which `π` names, for values of any types. -/
structure Team (ι κ π : Type) (τ : π → Type) (ε β : Type) where
  world : World β
  clients : ι → Client
  lists : κ → ι × FindingsList
  pollers : (i : π) → ι × StatusPoller (τ i) ε β
  rest : ε

namespace Team

variable {ι κ π : Type} {τ : π → Type} {ε β : Type}

/-- What is done by one of the clients, or anything else that happens: gates open and close, events
are dispatched, kept previews are looked up, filters and selections change, pollers are made. -/
inductive Act (ι κ π : Type) (τ : π → Type) (ε β : Type) : Type 1 where
  | read (who : ι) (α : Type) (h : Handle α)
  | revalidate (who : ι) (α : Type) (h : Handle α)
  | change (who : ι) (α : Type) (m : Mutation α)
  | load (l : κ)
  | summary (l : κ)
  | bulkMark (l : κ) (status : TriageStatus) (reason : Option String)
  | poll (i : π)
  | run (i : π) (maxPolls : ℕ)
  | other (γ : Type) (f : Team ι κ π τ ε β → γ × Team ι κ π τ ε β)

namespace Act

def Answer : Act ι κ π τ ε β → Type
  | read _ α _ => ReadState α
  | revalidate _ α _ => ReadState α
  | change _ α _ => Except Explanation α
  | load _ => ReadState (Page Finding)
  | summary _ => ReadState SeverityCounts
  | bulkMark .. => Except Explanation BulkUpdate
  | poll i => Watched (τ i)
  | run i _ => Watched (τ i)
  | other γ _ => γ

/-- The client by which something is done. -/
def actor? (t : Team ι κ π τ ε β) : Act ι κ π τ ε β → Option ι
  | read who .. => some who
  | revalidate who .. => some who
  | change who .. => some who
  | load l => some (t.lists l).1
  | summary l => some (t.lists l).1
  | bulkMark l .. => some (t.lists l).1
  | poll i => some (t.pollers i).1
  | run i _ => some (t.pollers i).1
  | other .. => none

end Act

variable [DecidableEq ι] [DecidableEq κ] [DecidableEq π] [Backend β]

/-- The poller and its surroundings after a call to it. -/
def polled (t : Team ι κ π τ ε β) (i : π) (x : Polled (τ i) ε β) : Team ι κ π τ ε β where
  world := x.scene.world
  clients := Function.update t.clients (t.pollers i).1 x.scene.client
  lists := t.lists
  pollers := Function.update t.pollers i ((t.pollers i).1, x.poller)
  rest := x.scene.rest

/-- What a poller looks at. -/
def scene (t : Team ι κ π τ ε β) (i : π) : Scene ε β :=
  ⟨t.clients (t.pollers i).1, t.world, t.rest⟩

def withWorld (t : Team ι κ π τ ε β) (world : World β) : Team ι κ π τ ε β := { t with world }

def step (t : Team ι κ π τ ε β) : (a : Act ι κ π τ ε β) → a.Answer × Team ι κ π τ ε β
  | .read who _ h =>
    let (state, w) := h.read (t.clients who) t.world
    (state, t.withWorld w)
  | .revalidate who _ h =>
    let (state, w) := h.revalidate (t.clients who) t.world
    (state, t.withWorld w)
  | .change who _ m =>
    let (result, w) := m.run (t.clients who) t.world
    (result, t.withWorld w)
  | .load l =>
    let (state, w) := (t.lists l).2.load (t.clients (t.lists l).1) t.world
    (state, t.withWorld w)
  | .summary l =>
    let (state, w) := (t.lists l).2.summary (t.clients (t.lists l).1) t.world
    (state, t.withWorld w)
  | .bulkMark l status reason =>
    let (result, list, w) := (t.lists l).2.bulkMark status reason (t.clients (t.lists l).1) t.world
    (result, { t with world := w, lists := Function.update t.lists l ((t.lists l).1, list) })
  | .poll i =>
    let x := (t.pollers i).2.poll (t.scene i)
    (x.watched, t.polled i x)
  | .run i maxPolls =>
    let x := (t.pollers i).2.run .quiet maxPolls (t.scene i) 0
    (x.watched, t.polled i x)
  | .other _ f => f t

/-- The act is done by a client that is not ready. -/
def Gated (t : Team ι κ π τ ε β) (a : Act ι κ π τ ε β) : Bool :=
  (a.actor? t).any fun who => !(t.clients who).ready

/-- How an act that is not let through is answered. -/
def Refused (t : Team ι κ π τ ε β) : (a : Act ι κ π τ ε β) → a.Answer → Prop
  | .read .., state => state = ReadState.pending
  | .revalidate .., state => state = ReadState.pending
  | .change .., result => result = .error (Explanation.ofCode .sessionNotReady)
  | .load _, state => state = ReadState.pending
  | .summary _, state => state = ReadState.pending
  | .bulkMark l .., result => result = .error
      (if (t.lists l).2.selection = [] then FindingsList.nothingSelected
      else Explanation.ofCode .sessionNotReady)
  | .poll i, x => x = (t.pollers i).2.refusal 0
  | .run i maxPolls, x => x = (t.pollers i).2.refusal ((t.pollers i).2.stillAttempts maxPolls)
  | .other .., _ => False

/-- The acts of a run with the states in which they are done. -/
def moments (t : Team ι κ π τ ε β) : List (Act ι κ π τ ε β) →
    List (Team ι κ π τ ε β × Act ι κ π τ ε β)
  | [] => []
  | a :: acts => (t, a) :: (t.step a).2.moments acts

/-- The state after several acts. -/
def after (t : Team ι κ π τ ε β) (acts : List (Act ι κ π τ ε β)) : Team ι κ π τ ε β :=
  acts.foldl (fun t a => (t.step a).2) t

/-- What is left of a run without what is done at closed gates. -/
def admitted (t : Team ι κ π τ ε β) (acts : List (Act ι κ π τ ε β)) :
    List (Team ι κ π τ ε β × Act ι κ π τ ε β) :=
  (t.moments acts).filter fun x => !x.1.Gated x.2

/-- An act with its answer. -/
def answer (x : Team ι κ π τ ε β × Act ι κ π τ ε β) : (a : Act ι κ π τ ε β) × a.Answer :=
  ⟨x.2, (x.1.step x.2).1⟩

/-! ### What is refused -/

section

variable {t : Team ι κ π τ ε β}

omit [DecidableEq κ] [Backend β] in
theorem polled_eq_self {i : π} {x : Polled (τ i) ε β} (hpoller : x.poller = (t.pollers i).2)
    (hscene : x.scene = t.scene i) : t.polled i x = t := by
  rw [polled, hpoller, hscene, Prod.mk.eta, Function.update_eq_self]
  simp only [scene, Function.update_eq_self]

theorem bulkMark_of_not_ready (l : FindingsList) (status : TriageStatus) (reason : Option String)
    {c : Client} (w : World β) (hclosed : c.ready = false) : l.bulkMark status reason c w =
      (.error (if l.selection = [] then FindingsList.nothingSelected
        else Explanation.ofCode .sessionNotReady), l, w) := by
  obtain ⟨hempty, heq⟩ | ⟨hsome, w', hrun⟩ := l.bulkMark_cases status reason c w
  · rw [heq, if_pos hempty]
  · rw [Mutation.run_of_not_ready _ c w hclosed] at hrun
    obtain ⟨e, he, heq⟩ | ⟨r, hr, -⟩ := hrun
    · obtain ⟨rfl, rfl⟩ := he
      rw [heq, if_neg hsome]
    · cases hr

/-- What is done at a closed gate is refused and leaves everything as it was. -/
theorem step_of_gated {a : Act ι κ π τ ε β} (hgated : t.Gated a) :
    t.Refused a (t.step a).1 ∧ (t.step a).2 = t := by
  have hclosed {who : ι} (h : a.actor? t = some who) : (t.clients who).ready = false := by
    simpa [Gated, h] using hgated
  cases a with
  | read who α h =>
    simp only [step, h.read_of_not_ready _ t.world (hclosed rfl)]
    exact ⟨rfl, rfl⟩
  | revalidate who α h =>
    simp only [step, h.revalidate_of_not_ready _ t.world (hclosed rfl)]
    exact ⟨rfl, rfl⟩
  | change who α m =>
    simp only [step, m.run_of_not_ready _ t.world (hclosed rfl)]
    exact ⟨rfl, rfl⟩
  | load l =>
    simp only [step, FindingsList.load, Handle.read_of_not_ready _ _ t.world (hclosed rfl)]
    exact ⟨rfl, rfl⟩
  | summary l =>
    simp only [step, FindingsList.summary, Handle.read_of_not_ready _ _ t.world (hclosed rfl)]
    exact ⟨rfl, rfl⟩
  | bulkMark l status reason =>
    have hmark := bulkMark_of_not_ready (t.lists l).2 status reason t.world (hclosed rfl)
    constructor
    · simp only [step, hmark]
      rfl
    · simp only [step, hmark, Prod.mk.eta, Function.update_eq_self]
  | poll i =>
    have hready : (t.scene i).client.ready = false := hclosed rfl
    have hidle := (t.pollers i).2.idle_poll hready
    refine ⟨hidle.watched, polled_eq_self hidle.poller ?_⟩
    rw [(t.pollers i).2.poll_of_closed hready]
  | run i maxPolls =>
    have hready : (t.scene i).client.ready = false := hclosed rfl
    have hidle := (t.pollers i).2.idle_run .quiet Audience.keepsClosed_quiet hready maxPolls
    have hn := (t.pollers i).2.runEnds_of_closed .quiet Audience.keepsClosed_quiet hready maxPolls
    refine ⟨hidle.watched, polled_eq_self hidle.poller ?_⟩
    rw [hn.scene, Audience.hear_quiet, StatusPoller.scene_attempt_quiet _ hready]
  | other γ f => cases hgated

/-! ### Runs without what is refused -/

theorem admitted_cons_of_gated {a : Act ι κ π τ ε β} (hgated : t.Gated a)
    (acts : List (Act ι κ π τ ε β)) : t.admitted (a :: acts) = t.admitted acts := by
  rw [admitted, moments, List.filter_cons_of_neg (by simp [hgated]), (step_of_gated hgated).2,
    admitted]

theorem admitted_cons_of_not_gated {a : Act ι κ π τ ε β} (hgated : t.Gated a = false)
    (acts : List (Act ι κ π τ ε β)) :
    t.admitted (a :: acts) = (t, a) :: (t.step a).2.admitted acts := by
  rw [admitted, moments, List.filter_cons_of_pos (by simp [hgated]), admitted]

/-- The acts that are let through find the same states if they are all that is done. -/
theorem moments_admitted (t : Team ι κ π τ ε β) (acts : List (Act ι κ π τ ε β)) :
    t.moments ((t.admitted acts).map Prod.snd) = t.admitted acts := by
  induction acts generalizing t with
  | nil => rfl
  | cons a acts ih =>
    cases hgated : t.Gated a with
    | true => rw [admitted_cons_of_gated hgated, ih]
    | false => rw [admitted_cons_of_not_gated hgated, List.map_cons, moments, ih]

theorem after_admitted (t : Team ι κ π τ ε β) (acts : List (Act ι κ π τ ε β)) :
    t.after ((t.admitted acts).map Prod.snd) = t.after acts := by
  induction acts generalizing t with
  | nil => rfl
  | cons a acts ih =>
    cases hgated : t.Gated a with
    | true =>
      rw [admitted_cons_of_gated hgated, ih]
      exact congrArg (·.after acts) (step_of_gated hgated).2.symm
    | false =>
      rw [admitted_cons_of_not_gated hgated]
      exact ih _

end

end Team

/-- A client that is not ready cannot be noticed. What is done through it is refused and changes
nothing, and every run has the same answers and the same end without those acts. -/
theorem Team.closed_gate_unnoticed {ι κ π : Type} {τ : π → Type} {ε β : Type} [DecidableEq ι]
    [DecidableEq κ] [DecidableEq π] [Backend β] :
    (∀ (t : Team ι κ π τ ε β) (a : Act ι κ π τ ε β), t.Gated a →
      t.Refused a (t.step a).1 ∧ (t.step a).2 = t) ∧
    (∀ (t : Team ι κ π τ ε β) (acts : List (Act ι κ π τ ε β)),
      (t.moments ((t.admitted acts).map Prod.snd)).map answer = (t.admitted acts).map answer ∧
      t.after ((t.admitted acts).map Prod.snd) = t.after acts) ∧
    (∀ (α : Type) (p : StatusPoller α ε β) (g : Audience α ε β) (s : Scene ε β) (maxPolls : ℕ),
      g.KeepsClosed → s.client.ready = false →
      p.Idle (p.stillAttempts maxPolls) (p.run g maxPolls s 0)) ∧
    (Explanation.ofCode .sessionNotReady).code = "AUTH_004" := by
  refine ⟨fun t a => step_of_gated, fun t acts => ⟨?_, t.after_admitted acts⟩,
    fun α p g s maxPolls hg hclosed => p.idle_run g hg hclosed maxPolls, rfl⟩
  rw [moments_admitted]

/-- A poller of a client that is not ready, alone in its team. -/
theorem Team.lone_poller_unnoticed :
    let client : Client := ⟨"http://localhost", none, false⟩
    let p : StatusPoller Run Unit Script :=
      ({ runId := "r", intervalMs := 0 } : Poller).toStatusPoller
    let t : Team Unit Unit Unit (fun _ => Run) Unit Script :=
      ⟨.start .empty, fun _ => client, fun _ => ((), {}), fun _ => ((), p), ()⟩
    t.Gated (.poll ()) ∧ (t.step (.poll ())).1 = p.refusal 0 ∧ (t.step (.poll ())).2 = t ∧
      t.after [.poll (), .bulkMark () .resolved none] = t ∧
      p.Idle 3 (p.run .quiet 3 (t.scene ()) 0) := by
  intro client p t
  obtain ⟨hstep, hrun, hidle, -⟩ := closed_gate_unnoticed (ι := Unit) (κ := Unit) (π := Unit)
    (τ := fun _ => Run) (ε := Unit) (β := Script)
  obtain ⟨hrefused, hsame⟩ := hstep t (.poll ()) rfl
  refine ⟨rfl, hrefused, hsame, ?_, ?_⟩
  · exact (hrun t [.poll (), .bulkMark () .resolved none]).2.symm
  · exact hidle Run p .quiet (t.scene ()) 3 Audience.keepsClosed_quiet rfl

end CodeHealth
