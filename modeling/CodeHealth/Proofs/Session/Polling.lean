import CodeHealth.Proofs.Number.Successor
import CodeHealth.Proofs.Session.Exchange
import CodeHealth.Session.StatusPoller
import Mathlib

/-! What a poller does, one call after another. A stretch of its life sends as many requests as it
counts, and one more for each call that fails; it calls back at the poll that stops it and at no
other, and once it has stopped does nothing but repeat what it saw last; stretches join to
stretches. A run of polls is followed through the attempts that there would be if nothing ended it:
it makes the first of them up to one that fails or leaves the poller stopped, or up to the last that
it may make. -/

namespace CodeHealth

/-! ### What the deeds amount to -/

namespace Deed

variable {α β : Type}

/-- The requests that have been sent in a deed. -/
def requests : Deed α β → List (String × Request)
  | look before after _ => after.sent.drop before.sent.length
  | _ => []

def stop? : Deed α β → Option α
  | stop a => some a
  | _ => none

def update? : Deed α β → Option (ReadState α)
  | update state => some state
  | _ => none

def sleep? : Deed α β → Option UInt64
  | sleep ms => some ms
  | _ => none

def isFail : Deed α β → Bool
  | fail => true
  | _ => false

/-- The deed leaves the world as it is and shows the given state once more. -/
def Repeats (state : ReadState α) : Deed α β → Prop
  | look before after seen => after = before ∧ seen = state
  | update seen => seen = state
  | _ => False

/-- All requests, in order. -/
def asked (deeds : List (Deed α β)) : List (String × Request) := deeds.flatMap requests

/-- The values that the callback has been called with. -/
def stops (deeds : List (Deed α β)) : List α := deeds.filterMap stop?

/-- The states that have been passed on. -/
def updates (deeds : List (Deed α β)) : List (ReadState α) := deeds.filterMap update?

/-- The pauses. -/
def sleeps (deeds : List (Deed α β)) : List UInt64 := deeds.filterMap sleep?

/-- How many calls have failed. -/
def failures (deeds : List (Deed α β)) : ℕ := deeds.countP isFail

theorem failures_pos_iff {deeds : List (Deed α β)} : 0 < failures deeds ↔ .fail ∈ deeds := by
  rw [failures, List.countP_pos_iff]
  constructor
  · rintro ⟨d, hd, hfail⟩
    cases d with
    | fail => exact hd
    | _ => cases hfail
  · exact fun h => ⟨_, h, rfl⟩

section

variable {state : ReadState α} {deeds : List (Deed α β)} (h : ∀ d ∈ deeds, d.Repeats state)

include h

theorem stops_of_repeats : stops deeds = [] := by
  refine List.filterMap_eq_nil_iff.2 fun d hd => ?_
  cases d with
  | stop a => exact (h _ hd).elim
  | _ => rfl

theorem asked_of_repeats : asked deeds = [] := by
  refine List.flatMap_eq_nil_iff.2 fun d hd => ?_
  cases d with
  | look before after seen =>
    obtain ⟨rfl, -⟩ := h _ hd
    exact List.drop_length
  | _ => rfl

theorem failures_of_repeats : failures deeds = 0 := by
  refine Nat.eq_zero_of_not_pos fun hpos => ?_
  exact h _ (failures_pos_iff.1 hpos)

end

end Deed

namespace Handle

variable {α β : Type} [Backend β] (h : Handle α) (c : Client) (w : World β)

/-- A fetch comes to an end, whatever the reply is. -/
@[simp] theorem loading_fetch : (h.fetch c w).1.loading = false := by
  simp only [fetch, settle]
  cases (c.ask h.call w).1 <;> rfl

theorem loading_of_fetch {state : ReadState α} {w' : World β} (hfetch : h.fetch c w = (state, w')) :
    state.loading = false := by
  simpa only [hfetch] using h.loading_fetch c w

theorem sent_of_fetch {state : ReadState α} {w' : World β} (hfetch : h.fetch c w = (state, w')) :
    w'.sent = w.sent ++ [c.outgoing h.call] := by
  simpa only [hfetch] using h.sent_fetch c w

theorem read_of_not_ready (hready : c.ready = false) : h.read c w = (.pending, w) := by
  simp [read, hready]

theorem revalidate_of_ready (hready : c.ready) : h.revalidate c w = h.fetch c w := by
  rw [revalidate, if_pos hready]

theorem revalidate_of_not_ready (hready : c.ready = false) : h.revalidate c w = (.pending, w) := by
  simp [revalidate, hready]

end Handle

@[simp] theorem Audience.hear_quiet {α ε β : Type} (state : Option (ReadState α))
    (s : Scene ε β) : quiet.hear state s = s := by
  cases state <;> rfl

namespace StatusPoller

open Deed (asked stops updates sleeps failures)

variable {α ε β : Type} [Backend β]

/-! ### One poll -/

section

variable (p : StatusPoller α ε β) (s : Scene ε β)

/-- The poller after a fetch that has given `state` and has been counted. -/
def saw (p : StatusPoller α ε β) (state : ReadState α) : StatusPoller α ε β :=
  { p with polls := p.polls + 1, last := some state }

theorem poll_of_stopped (hphase : p.phase = .stopped) : p.poll s =
    ⟨some (p.last.getD .pending), p, s, [.look s.world s.world (p.last.getD .pending)]⟩ := by
  simp only [poll, hphase]

/-- Nothing is sent through a closed gate. -/
theorem poll_of_not_ready (hphase : p.phase = .polling) (hready : s.client.ready = false) :
    p.poll s = ⟨some .pending, p, s, [.look s.world s.world .pending]⟩ := by
  simp only [poll, hphase, p.handle.revalidate_of_not_ready _ _ hready]
  rfl

section

variable {state : ReadState α} {w : World β} (hphase : p.phase = .polling)
  (hready : s.client.ready) (hfetch : p.handle.fetch s.client s.world = (state, w))

include hphase hready hfetch

/-- A fetch that cannot be counted comes to nothing. -/
theorem poll_of_full (hfull : p.polls.toNat + 1 = 2 ^ 32) :
    p.poll s = ⟨none, p, { s with world := w }, [.look s.world w state, .fail]⟩ := by
  have hloading := p.handle.loading_of_fetch _ _ hfetch
  simp only [poll, hphase, p.handle.revalidate_of_ready _ _ hready, hfetch, hloading,
    Number.succ?_eq_none_iff.2 hfull, Bool.false_eq_true, ↓reduceIte]

/-- A fetch shows the end, and the callback is called. -/
theorem poll_of_terminal (hroom : p.polls.toNat + 1 < 2 ^ 32) {a : α}
    (ha : state.data.filter p.isTerminal = some a) :
    p.poll s = ⟨some state, { p.saw state with phase := .stopped },
      p.onStop a { s with world := w }, [.look s.world w state, .stop a]⟩ := by
  have hloading := p.handle.loading_of_fetch _ _ hfetch
  simp only [poll, hphase, p.handle.revalidate_of_ready _ _ hready, hfetch, hloading,
    Number.succ?_of_lt hroom, ha, saw, Bool.false_eq_true, ↓reduceIte]

/-- A fetch shows anything else. -/
theorem poll_of_not_terminal (hroom : p.polls.toNat + 1 < 2 ^ 32)
    (hnone : state.data.filter p.isTerminal = none) :
    p.poll s = ⟨some state, p.saw state, { s with world := w }, [.look s.world w state]⟩ := by
  have hloading := p.handle.loading_of_fetch _ _ hfetch
  simp only [poll, hphase, p.handle.revalidate_of_ready _ _ hready, hfetch, hloading,
    Number.succ?_of_lt hroom, hnone, saw, Bool.false_eq_true, ↓reduceIte]

end

/-- All that one poll can do. -/
theorem poll_cases :
    (p.phase = .stopped ∧ p.poll s =
      ⟨some (p.last.getD .pending), p, s, [.look s.world s.world (p.last.getD .pending)]⟩) ∨
    (p.phase = .polling ∧ s.client.ready = false ∧
      p.poll s = ⟨some .pending, p, s, [.look s.world s.world .pending]⟩) ∨
    ∃ state w, p.phase = .polling ∧ s.client.ready ∧
      p.handle.fetch s.client s.world = (state, w) ∧
      ((p.polls.toNat + 1 = 2 ^ 32 ∧
        p.poll s = ⟨none, p, { s with world := w }, [.look s.world w state, .fail]⟩) ∨
      p.polls.toNat + 1 < 2 ^ 32 ∧
        ((state.data.filter p.isTerminal = none ∧
          p.poll s = ⟨some state, p.saw state, { s with world := w }, [.look s.world w state]⟩) ∨
        ∃ a, state.data.filter p.isTerminal = some a ∧
          p.poll s = ⟨some state, { p.saw state with phase := .stopped },
            p.onStop a { s with world := w }, [.look s.world w state, .stop a]⟩)) := by
  cases hphase : p.phase with
  | stopped => exact .inl ⟨rfl, p.poll_of_stopped s hphase⟩
  | polling =>
    right
    cases hready : s.client.ready with
    | false => exact .inl ⟨rfl, rfl, p.poll_of_not_ready s hphase hready⟩
    | true =>
      obtain ⟨state, w, hfetch⟩ : ∃ state w, p.handle.fetch s.client s.world = (state, w) :=
        ⟨_, _, rfl⟩
      refine .inr ⟨state, w, rfl, rfl, hfetch, ?_⟩
      obtain hroom | hfull := Nat.lt_or_eq_of_le (Nat.succ_le_of_lt p.polls.toNat_lt)
      · refine .inr ⟨hroom, ?_⟩
        cases hend : state.data.filter p.isTerminal with
        | none => exact .inl ⟨rfl, p.poll_of_not_terminal s hphase hready hfetch hroom hend⟩
        | some a => exact .inr ⟨a, rfl, p.poll_of_terminal s hphase hready hfetch hroom hend⟩
      · exact .inl ⟨hfull, p.poll_of_full s hphase hready hfetch hfull⟩

end

/-! ### Stretches of a life -/

/-- At some point the poller has seen the end and called back, and it has repeated itself since. -/
def Ends (isTerminal : α → Bool) (deeds : List (Deed α β)) (last : Option (ReadState α)) : Prop :=
  ∃ before w w' state a after, deeds = before ++ .look w w' state :: .stop a :: after ∧
    stops before = [] ∧ last = some state ∧ state.data = some a ∧ isTerminal a ∧
    ∀ d ∈ after, d.Repeats state

/-- How a poller may come from `p` to `p'` with the given deeds. -/
structure Stretch (p : StatusPoller α ε β) (deeds : List (Deed α β)) (p' : StatusPoller α ε β) :
    Prop where
  isTerminal : p'.isTerminal = p.isTerminal
  intervalMs : p'.intervalMs = p.intervalMs
  onStop : p'.onStop = p.onStop
  /-- All requests are counted but those of the calls that have failed. -/
  counted : p'.polls.toNat + failures deeds = p.polls.toNat + (asked deeds).length
  /-- There is no number for one more request after a call has failed. -/
  full : 0 < failures deeds → p'.polls.toNat + 1 = 2 ^ 32
  stays : p.phase = .stopped → p' = p ∧ ∀ d ∈ deeds, d.Repeats (p.last.getD .pending)
  goesOn : p'.phase = .polling → p.phase = .polling ∧ stops deeds = []
  ends : p.phase = .polling → p'.phase = .stopped → Ends p.isTerminal deeds p'.last

namespace Stretch

variable {p p' p'' : StatusPoller α ε β} {deeds deeds' : List (Deed α β)}

omit [Backend β]

/-- What a poller that is still polling does between its polls. -/
theorem idle (hphase : p.phase = .polling) (hasked : asked deeds = [])
    (hfailures : failures deeds = 0) (hstops : stops deeds = []) : Stretch p deeds p := by
  refine ⟨rfl, rfl, rfl, by simp [hasked, hfailures], by simp [hfailures], fun h => ?_,
    fun _ => ⟨hphase, hstops⟩, fun _ h => ?_⟩
  · exact absurd (hphase.symm.trans h) (by decide)
  · exact absurd (hphase.symm.trans h) (by decide)

/-- What a poller that has stopped does. -/
theorem repeating (hphase : p.phase = .stopped)
    (h : ∀ d ∈ deeds, d.Repeats (p.last.getD .pending)) : Stretch p deeds p := by
  have hfailures := Deed.failures_of_repeats h
  refine ⟨rfl, rfl, rfl, by simp [Deed.asked_of_repeats h, hfailures], by simp [hfailures],
    fun _ => ⟨rfl, h⟩, fun h' => ?_, fun h' _ => ?_⟩
  · exact absurd (hphase.symm.trans h') (by decide)
  · exact absurd (hphase.symm.trans h') (by decide)

theorem refl (p : StatusPoller α ε β) : Stretch p [] p := by
  cases hphase : p.phase with
  | polling => exact idle hphase rfl rfl rfl
  | stopped => exact repeating hphase (by simp)

theorem trans (h : Stretch p deeds p') (h' : Stretch p' deeds' p'') :
    Stretch p (deeds ++ deeds') p'' := by
  have hcounted := h.counted
  have hcounted' := h'.counted
  have hlength : (asked (deeds ++ deeds')).length =
      (asked deeds).length + (asked deeds').length := by
    simp [asked]
  have hfailures : failures (deeds ++ deeds') = failures deeds + failures deeds' :=
    List.countP_append
  refine ⟨h'.isTerminal.trans h.isTerminal, h'.intervalMs.trans h.intervalMs,
    h'.onStop.trans h.onStop, by omega, ?_, ?_, ?_, ?_⟩
  · intro hpos
    by_cases hlast : 0 < failures deeds'
    · exact h'.full hlast
    · -- the count was full before, and it does not go down
      have hfull := h.full (by omega)
      have hlt := p''.polls.toNat_lt
      omega
  · intro hphase
    obtain ⟨rfl, hdeeds⟩ := h.stays hphase
    obtain ⟨rfl, hdeeds'⟩ := h'.stays hphase
    exact ⟨rfl, List.forall_mem_append.2 ⟨hdeeds, hdeeds'⟩⟩
  · intro hphase
    obtain ⟨hmiddle, hstops'⟩ := h'.goesOn hphase
    obtain ⟨hfirst, hstops⟩ := h.goesOn hmiddle
    refine ⟨hfirst, ?_⟩
    rw [stops, List.filterMap_append, ← stops, ← stops, hstops, hstops', List.append_nil]
  · intro hpolling hstopped
    cases hmiddle : p'.phase with
    | stopped =>
      -- the end lies in the first part, and the second repeats it
      obtain ⟨rfl, hdeeds'⟩ := h'.stays hmiddle
      obtain ⟨before, w, w', state, a, after, rfl, hbefore, hlast, hdata, ha, hafter⟩ :=
        h.ends hpolling hmiddle
      rw [hlast, Option.getD_some] at hdeeds'
      exact ⟨before, w, w', state, a, after ++ deeds', by simp, hbefore, hlast, hdata, ha,
        List.forall_mem_append.2 ⟨hafter, hdeeds'⟩⟩
    | polling =>
      obtain ⟨-, hstops⟩ := h.goesOn hmiddle
      obtain ⟨before, w, w', state, a, after, rfl, hbefore, hlast, hdata, ha, hafter⟩ :=
        h'.ends hmiddle hstopped
      refine ⟨deeds ++ before, w, w', state, a, after, by simp, ?_, hlast, hdata, ?_, hafter⟩
      · rw [stops, List.filterMap_append, ← stops, ← stops, hstops, hbefore, List.append_nil]
      · rw [← h.isTerminal]
        exact ha

/-- A call has failed iff more requests have been sent than there are numbers for. -/
theorem fail_mem_iff (h : Stretch p deeds p') :
    .fail ∈ deeds ↔ 2 ^ 32 ≤ p.polls.toNat + (asked deeds).length := by
  have hcounted := h.counted
  have hlt := p'.polls.toNat_lt
  rw [← Deed.failures_pos_iff]
  constructor
  · intro hpos
    have hfull := h.full hpos
    omega
  · omega

/-- As long as there are numbers for them, all requests are counted. -/
theorem polls_of_lt (h : Stretch p deeds p')
    (hfew : p.polls.toNat + (asked deeds).length < 2 ^ 32) :
    p'.polls.toNat = p.polls.toNat + (asked deeds).length := by
  have hnone : ¬ 0 < failures deeds := by
    rw [Deed.failures_pos_iff, h.fail_mem_iff]
    omega
  have hcounted := h.counted
  omega

end Stretch

/-- A poll sends one request or none, and it calls back just when it stops the poller. -/
theorem stretch_poll (p : StatusPoller α ε β) (s : Scene ε β) :
    Stretch p (p.poll s).deeds (p.poll s).poller := by
  rcases p.poll_cases s with ⟨hphase, heq⟩ | ⟨hphase, -, heq⟩ |
    ⟨state, w, hphase, -, hfetch, hlook⟩
  · rw [heq]
    exact .repeating hphase (by simp [Deed.Repeats])
  · rw [heq]
    exact .idle hphase (by simp [asked, Deed.requests]) rfl rfl
  · have hrunning : p.phase ≠ .stopped := by simp [hphase]
    have hasked (deeds : List (Deed α β)) :
        (asked (.look s.world w state :: deeds)).length = (asked deeds).length + 1 := by
      simp [asked, Deed.requests, p.handle.sent_of_fetch _ _ hfetch, Nat.add_comm]
    rcases hlook with ⟨hfull, heq⟩ | ⟨hroom, ⟨-, heq⟩ | ⟨a, ha, heq⟩⟩
    · rw [heq]
      refine ⟨rfl, rfl, rfl, by rw [hasked]; rfl, fun _ => hfull, fun h => absurd h hrunning,
        fun _ => ⟨hphase, rfl⟩, fun _ h => absurd h hrunning⟩
    · have hpolls := Number.toNat_add_one_of_lt hroom
      rw [heq]
      refine ⟨rfl, rfl, rfl, by rw [hasked]; exact hpolls, nofun, fun h => absurd h hrunning,
        fun _ => ⟨hphase, rfl⟩, fun _ h => absurd h hrunning⟩
    · have hpolls := Number.toNat_add_one_of_lt hroom
      obtain ⟨hdata, hterminal⟩ := Option.filter_eq_some_iff.1 ha
      rw [heq]
      refine ⟨rfl, rfl, rfl, by rw [hasked]; exact hpolls, nofun, fun h => absurd h hrunning, nofun,
        fun _ _ => ?_⟩
      exact ⟨[], s.world, w, state, a, [], rfl, rfl, rfl, hdata, hterminal, by simp⟩

/-- A poll after which the poller has stopped gives what it saw last. -/
theorem state_poll_of_stopped (p : StatusPoller α ε β) (s : Scene ε β)
    (hstopped : (p.poll s).poller.phase = .stopped) :
    (p.poll s).state = some ((p.poll s).poller.last.getD .pending) := by
  rcases p.poll_cases s with ⟨-, heq⟩ | ⟨hphase, -, heq⟩ |
    ⟨state, w, hphase, -, -, ⟨-, heq⟩ | ⟨-, ⟨-, heq⟩ | ⟨a, -, heq⟩⟩⟩
  · rw [heq]
  · rw [heq, hphase] at hstopped
    contradiction
  · rw [heq, hphase] at hstopped
    contradiction
  · rw [heq] at hstopped
    exact absurd (hphase.symm.trans hstopped) (by decide)
  · rw [heq]
    rfl

/-! ### Runs of polls -/

section

variable (p : StatusPoller α ε β) (g : Audience α ε β) (s : Scene ε β)

/-- What comes between one poll and the next in a run that goes on. -/
def round (x : StatusPoller α ε β × Scene ε β) : StatusPoller α ε β × Scene ε β :=
  let y := x.1.poll x.2
  (y.poller, g.sleep x.1.intervalMs (g.hear y.state y.scene))

/-- The attempt number `k`, counted from zero, of a run that nothing ends. -/
def attempt (k : ℕ) : Polled α ε β :=
  let x := (round g)^[k] (p, s)
  x.1.poll x.2

/-- What is done in an attempt: a poll, whose state is passed on. -/
def attemptDeeds (k : ℕ) : List (Deed α β) :=
  (p.attempt g s k).deeds ++ (p.attempt g s k).state.toList.map .update

/-- What is done in the first `n` attempts of a run. -/
def runDeeds (n : ℕ) : List (Deed α β) :=
  [Deed.sleep p.intervalMs].intercalate ((List.range n).map (p.attemptDeeds g s))

theorem attempt_zero : p.attempt g s 0 = p.poll s := rfl

theorem attempt_succ (k : ℕ) : p.attempt g s (k + 1) =
    (round g (p, s)).1.attempt g (round g (p, s)).2 k := rfl

theorem attemptDeeds_zero : p.attemptDeeds g s 0 =
    (p.poll s).deeds ++ (p.poll s).state.toList.map .update := rfl

theorem attemptDeeds_succ (k : ℕ) : p.attemptDeeds g s (k + 1) =
    (round g (p, s)).1.attemptDeeds g (round g (p, s)).2 k := rfl

theorem runDeeds_one : p.runDeeds g s 1 = p.attemptDeeds g s 0 := by
  simp [runDeeds]

theorem runDeeds_succ (n : ℕ) : p.runDeeds g s (n + 2) = p.attemptDeeds g s 0 ++
    .sleep p.intervalMs :: (round g (p, s)).1.runDeeds g (round g (p, s)).2 (n + 1) := by
  have hinterval : (round g (p, s)).1.intervalMs = p.intervalMs := (p.stretch_poll s).intervalMs
  have hrange : (List.range (n + 2)).map (p.attemptDeeds g s) = p.attemptDeeds g s 0 ::
      (List.range (n + 1)).map ((round g (p, s)).1.attemptDeeds g (round g (p, s)).2) := by
    simp [List.range_succ_eq_map (n := n + 1), Function.comp_def, attemptDeeds_succ]
  rw [runDeeds, hrange, List.intercalate_cons_of_ne_nil (by simp), runDeeds, hinterval]
  simp

/-- A run that ends with its next attempt. -/
theorem run_of_over {maxPolls j : ℕ} (hover : (p.poll s).Over ∨ maxPolls ≤ j + 1) :
    p.run g maxPolls s j = ⟨(p.poll s).state, (p.poll s).poller,
      g.hear (p.poll s).state (p.poll s).scene, p.attemptDeeds g s 0⟩ := by
  rw [run, if_pos hover]
  rfl

/-- A run that goes on is a run after its next attempt. -/
theorem run_of_not_over {maxPolls j : ℕ} (hmore : ¬ ((p.poll s).Over ∨ maxPolls ≤ j + 1)) :
    p.run g maxPolls s j =
      let y := (round g (p, s)).1.run g maxPolls (round g (p, s)).2 (j + 1)
      { y with deeds := p.attemptDeeds g s 0 ++ .sleep p.intervalMs :: y.deeds } := by
  rw [run, if_neg hmore]
  rfl

/-- What a run comes to if it ends with the attempt number `m`. -/
def runTo (m : ℕ) : Polled α ε β :=
  ⟨(p.attempt g s m).state, (p.attempt g s m).poller,
    g.hear (p.attempt g s m).state (p.attempt g s m).scene, p.runDeeds g s (m + 1)⟩

/-- A run after `j` attempts ends with the first attempt that fails or leaves the poller stopped,
but at the latest with the last one that it has left. -/
theorem run_eq_runTo (maxPolls j : ℕ) : ∃ m < max 1 (maxPolls - j),
    (∀ k < m, ¬ (p.attempt g s k).Over) ∧
    ((p.attempt g s m).Over ∨ m + 1 = max 1 (maxPolls - j)) ∧
    p.run g maxPolls s j = p.runTo g s m := by
  obtain ⟨left, hleft⟩ : ∃ left, left = maxPolls - j := ⟨_, rfl⟩
  -- by how many attempts are left; the run after the first attempt is a run of its own
  induction left generalizing p s j with
  | zero =>
    refine ⟨0, by omega, by omega, .inr (by omega), ?_⟩
    rw [p.run_of_over g s (.inr (by omega)), runTo, zero_add, runDeeds_one]
    rfl
  | succ left ih =>
    by_cases hover : (p.poll s).Over ∨ maxPolls ≤ j + 1
    · refine ⟨0, by omega, by omega, ?_, ?_⟩
      · rw [attempt_zero]
        exact hover.imp_right fun h => by omega
      · rw [p.run_of_over g s hover, runTo, zero_add, runDeeds_one]
        rfl
    · obtain ⟨hfirst, hmore⟩ := not_or.1 hover
      obtain ⟨m, hm, hbefore, hend, hrun⟩ :=
        ih (round g (p, s)).1 (round g (p, s)).2 (j + 1) (by omega)
      refine ⟨m + 1, by omega, ?_, ?_, ?_⟩
      · rintro (_ | k) hk
        · exact hfirst
        · exact hbefore k (by omega)
      · exact hend.imp_right fun h => by omega
      · rw [p.run_of_not_over g s hover, hrun, runTo, runTo, runDeeds_succ]
        rfl

/-! ### What is done in a run -/

/-- A poll is a look, then perhaps a call back; the callback acts on what the look leaves. A poll
that fails is a look whose request is one too many, and it leaves the poller as it was. -/
theorem deeds_poll : ∃ w state,
    ((p.poll s).state = some state ∧
      (p.poll s).deeds = .look s.world w state :: (stops (p.poll s).deeds).map .stop ∧
      (p.poll s).scene =
        (stops (p.poll s).deeds).foldl (fun s a => p.onStop a s) { s with world := w }) ∨
    p.polls.toNat + 1 = 2 ^ 32 ∧ w.sent = s.world.sent ++ [s.client.outgoing p.handle.call] ∧
      p.poll s = ⟨none, p, { s with world := w }, [.look s.world w state, .fail]⟩ := by
  rcases p.poll_cases s with ⟨-, heq⟩ | ⟨-, -, heq⟩ |
    ⟨state, w, -, -, hfetch, ⟨hfull, heq⟩ | ⟨-, ⟨-, heq⟩ | ⟨a, -, heq⟩⟩⟩
  · refine ⟨s.world, p.last.getD .pending, .inl ?_⟩
    rw [heq]
    exact ⟨rfl, rfl, rfl⟩
  · refine ⟨s.world, .pending, .inl ?_⟩
    rw [heq]
    exact ⟨rfl, rfl, rfl⟩
  · exact ⟨w, state, .inr ⟨hfull, p.handle.sent_of_fetch _ _ hfetch, heq⟩⟩
  · refine ⟨w, state, .inl ?_⟩
    rw [heq]
    exact ⟨rfl, rfl, rfl⟩
  · refine ⟨w, state, .inl ?_⟩
    rw [heq]
    exact ⟨rfl, rfl, rfl⟩

/-- Of an attempt, what is neither a look nor its outcome is that its state is passed on. -/
theorem filterMap_attemptDeeds_zero {γ : Type} (f : Deed α β → Option γ)
    (hlook : ∀ w w' state, f (.look w w' state) = none) (hfail : f .fail = none)
    (hstop : ∀ a, f (.stop a) = none) : (p.attemptDeeds g s 0).filterMap f =
      (p.attempt g s 0).state.toList.filterMap fun state => f (.update state) := by
  have hdeeds : (p.poll s).deeds.filterMap f = [] := by
    obtain ⟨w, state, ⟨-, hdeeds, -⟩ | ⟨-, -, heq⟩⟩ := p.deeds_poll s
    · have hstops (l : List α) : (l.map .stop).filterMap f = [] :=
        List.filterMap_eq_nil_iff.2 (List.forall_mem_map.2 fun a _ => hstop a)
      rw [hdeeds, List.filterMap_cons_none (hlook ..), hstops]
    · simp [heq, hlook, hfail]
  rw [attemptDeeds_zero, List.filterMap_append, hdeeds, List.nil_append, List.filterMap_map]
  rfl

theorem updates_attemptDeeds_zero :
    updates (p.attemptDeeds g s 0) = (p.attempt g s 0).state.toList := by
  rw [updates, p.filterMap_attemptDeeds_zero g s Deed.update? (fun _ _ _ => rfl) rfl fun _ => rfl]
  exact List.filterMap_some

theorem sleeps_attemptDeeds_zero : sleeps (p.attemptDeeds g s 0) = [] := by
  rw [sleeps, p.filterMap_attemptDeeds_zero g s Deed.sleep? (fun _ _ _ => rfl) rfl fun _ => rfl]
  exact List.filterMap_eq_nil_iff.2 fun _ _ => rfl

/-- Every attempt passes its state on. -/
theorem updates_runDeeds (m : ℕ) (hstates : ∀ k ≤ m, (p.attempt g s k).state.isSome) :
    (updates (p.runDeeds g s (m + 1))).map some =
      (List.range (m + 1)).map fun k => (p.attempt g s k).state := by
  have hfirst (p : StatusPoller α ε β) (s : Scene ε β) (h : (p.attempt g s 0).state.isSome) :
      (updates (p.attemptDeeds g s 0)).map some = [(p.attempt g s 0).state] := by
    obtain ⟨state, hstate⟩ := Option.isSome_iff_exists.1 h
    rw [updates_attemptDeeds_zero, hstate]
    rfl
  induction m generalizing p s with
  | zero => rw [zero_add, runDeeds_one, hfirst p s (hstates 0 le_rfl)]; rfl
  | succ m ih =>
    have hpause (deeds : List (Deed α β)) (ms : UInt64) :
        updates (.sleep ms :: deeds) = updates deeds := rfl
    have hrest := ih (round g (p, s)).1 (round g (p, s)).2 fun k hk =>
      hstates (k + 1) (Nat.succ_le_succ hk)
    rw [runDeeds_succ, updates, List.filterMap_append, ← updates, ← updates, hpause,
      List.map_append, hfirst p s (hstates 0 (Nat.zero_le _)), hrest,
      List.range_succ_eq_map (n := m + 1), List.map_cons, List.map_map]
    rfl

/-- There is a pause between any two attempts, and no other. -/
theorem sleeps_runDeeds (m : ℕ) :
    sleeps (p.runDeeds g s (m + 1)) = List.replicate m p.intervalMs := by
  induction m generalizing p s with
  | zero => rw [zero_add, runDeeds_one, sleeps_attemptDeeds_zero]; rfl
  | succ m ih =>
    have hinterval : (round g (p, s)).1.intervalMs = p.intervalMs := (p.stretch_poll s).intervalMs
    have hpause (deeds : List (Deed α β)) (ms : UInt64) :
        sleeps (.sleep ms :: deeds) = ms :: sleeps deeds := rfl
    rw [runDeeds_succ, sleeps, List.filterMap_append, ← sleeps, ← sleeps, hpause,
      sleeps_attemptDeeds_zero, ih, hinterval]
    rfl

/-- What is passed on changes nothing. -/
theorem stretch_attempt : Stretch p (p.attemptDeeds g s 0) (p.poll s).poller := by
  refine (p.stretch_poll s).trans ?_
  rw [attempt_zero]
  cases hphase : (p.poll s).poller.phase with
  | polling =>
    cases (p.poll s).state with
    | none => exact .refl _
    | some state => exact .idle hphase rfl rfl rfl
  | stopped =>
    refine .repeating hphase ?_
    rw [p.state_poll_of_stopped s hphase]
    exact List.forall_mem_singleton.2 rfl

theorem stretch_runDeeds (m : ℕ)
    (hbefore : ∀ k < m, (p.attempt g s k).poller.phase ≠ .stopped) :
    Stretch p (p.runDeeds g s (m + 1)) (p.attempt g s m).poller := by
  induction m generalizing p s with
  | zero =>
    rw [zero_add, runDeeds_one]
    exact p.stretch_attempt g s
  | succ m ih =>
    have hphase : (round g (p, s)).1.phase = .polling := by
      cases h : (round g (p, s)).1.phase with
      | polling => rfl
      | stopped => exact absurd h (hbefore 0 (by omega))
    have hpause : Stretch (round g (p, s)).1 [.sleep p.intervalMs] (round g (p, s)).1 :=
      .idle hphase rfl rfl rfl
    have hrest := ih (round g (p, s)).1 (round g (p, s)).2 fun k hk => hbefore (k + 1) (by omega)
    rw [runDeeds_succ]
    exact (p.stretch_attempt g s).trans (hpause.trans hrest)

/-- An attempt that fails shows in what is done. -/
theorem fail_mem_runDeeds (m : ℕ) (hfails : (p.attempt g s m).state = none) :
    .fail ∈ p.runDeeds g s (m + 1) := by
  induction m generalizing p s with
  | zero =>
    obtain ⟨w, state, ⟨hstate, -⟩ | ⟨-, -, heq⟩⟩ := p.deeds_poll s
    · cases hfails.symm.trans hstate
    · rw [zero_add, runDeeds_one, attemptDeeds_zero, heq]
      simp
  | succ m ih =>
    rw [runDeeds_succ]
    exact List.mem_append_right _ (List.mem_cons_of_mem _ (ih _ _ hfails))

theorem stretch_run (maxPolls j : ℕ) :
    Stretch p (p.run g maxPolls s j).deeds (p.run g maxPolls s j).poller := by
  obtain ⟨m, -, hbefore, -, hrun⟩ := p.run_eq_runTo g s maxPolls j
  rw [hrun]
  exact p.stretch_runDeeds g s m fun k hk hstopped => hbefore k hk (.inr hstopped)

end

end StatusPoller

end CodeHealth
