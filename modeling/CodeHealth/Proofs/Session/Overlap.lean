import CodeHealth.Proofs.Cache.Entries
import CodeHealth.Proofs.Session.Exchange
import Mathlib

/-! Calls that overlap. Here a call is two moves: when it is sent the service applies it and
answers, and when it lands the client records the answer or dispatches the event. Calls of any
clients are sent and land in any order. A fresh answer should be no older than any confirmed change
that reaches its key; storing an answer asks for no such thing, so the law holds exactly as long as
no answer lands after a younger change to it has been confirmed. Calls that do not overlap never
break it. -/

namespace CodeHealth

/-- An answer on its way back. -/
inductive Cargo where
  | fetched (q : Query) (outcome : Except Fault q.Answer)
  | changed (x : Change) (outcome : Except Fault x.Answer)

/-- A call that has been answered, at the given time, and has not landed yet. -/
structure Flight where
  time : ℕ
  cargo : Cargo

/-- A confirmed change: its event, what it happened to, and when the service applied it. -/
structure Applied where
  event : Event
  entity : Option String
  time : ℕ
  deriving DecidableEq

/-- The change makes answers under `k` old. -/
def Applied.Reaches (m : Applied) (k : Key) : Prop := m.event.reaches m.entity k = true

instance (m : Applied) (k : Key) : Decidable (m.Reaches k) :=
  inferInstanceAs (Decidable (_ = true))

/-- What is fresh was answered no earlier than any confirmed change that reaches it was applied. -/
def Cache.Timely (c : Cache) (origin : Key → ℕ) (applied : List Applied) : Prop :=
  ∀ k e, c.get? k = some e → e.stale = false → ∀ m ∈ applied, m.Reaches k → m.time ≤ origin k

/-- The service with its clients. Every call takes its place in time when it is sent. -/
structure Traffic (β : Type) where
  world : World β
  flights : List Flight := []
  clock : ℕ := 0
  /-- When the data under a key was answered. -/
  origin : Key → ℕ := fun _ => 0
  /-- The changes whose events have been dispatched. -/
  applied : List Applied := []

/-- A call is sent, or one that is under way lands. -/
inductive Traffic.Move where
  | fetch (c : Client) (q : Query)
  | change (c : Client) (x : Change)
  | land (i : ℕ)

namespace Traffic

variable {β : Type}

/-- The cache is changed by what a flight brings. -/
def unload (s : Traffic β) (f : Flight) : Traffic β :=
  match f.cargo with
  | .fetched q (.ok a) =>
    { s with
      world := s.world.withCache (q.handle.settle s.world.cache (.ok a)).2
      origin := Function.update s.origin q.key f.time }
  | .fetched q (.error e) =>
    { s with world := s.world.withCache (q.handle.settle s.world.cache (.error e)).2 }
  | .changed x (.ok a) =>
    { s with
      world := s.world.withCache (x.mutation.confirm s.world.cache a)
      origin := (x.keep?.map fun k => Function.update s.origin k f.time).getD s.origin
      applied := ⟨x.event, x.entity?, f.time⟩ :: s.applied }
  | .changed _ (.error _) => s

/-- The service answers, and the answer is on its way. -/
def send (s : Traffic β) (w : World β) (cargo : Cargo) : Traffic β :=
  { s with world := w, flights := s.flights ++ [⟨s.clock, cargo⟩], clock := s.clock + 1 }

variable [Backend β]

/-- Clients that are not ready send nothing. -/
def step (s : Traffic β) : Move → Traffic β
  | .fetch c q =>
    if c.ready then s.send (c.ask q.call s.world).2 (.fetched q (c.ask q.call s.world).1) else s
  | .change c x =>
    if c.ready then s.send (c.ask x.call s.world).2 (.changed x (c.ask x.call s.world).1) else s
  | .land i =>
    match s.flights[i]? with
    | some f => { s with flights := s.flights.eraseIdx i }.unload f
    | none => s

def run (s : Traffic β) (ms : List Move) : Traffic β := ms.foldl step s

def Lawful (s : Traffic β) : Prop := s.world.cache.Timely s.origin s.applied

/-- A change that reaches `k` has been applied after the time `t`, and is confirmed already. -/
def Overtaken (s : Traffic β) (k : Key) (t : ℕ) : Prop :=
  ∃ m ∈ s.applied, m.Reaches k ∧ t < m.time

/-- The flight brings an answer to a key for which it has been overtaken. -/
def Belated (s : Traffic β) (f : Flight) : Prop :=
  match f.cargo with
  | .fetched q (.ok _) => s.Overtaken q.key f.time
  | .changed x (.ok _) => ∃ k ∈ x.keep?, s.Overtaken k f.time
  | _ => False

/-- A belated flight lands. -/
def Late (s : Traffic β) : Move → Prop
  | .land i => ∃ f ∈ s.flights[i]?, s.Belated f
  | _ => False

end Traffic

/-! ### One change of the cache -/

namespace Cache.Timely

variable {c : Cache} {origin : Key → ℕ} {applied : List Applied}

/-- A stored answer is fresh whatever has happened, so it has to be young enough itself. -/
theorem storeSuccess_iff (h : c.Timely origin applied) (k : Key) (data : Json) (t : ℕ) :
    (c.storeSuccess k data).Timely (Function.update origin k t) applied ↔
      ∀ m ∈ applied, m.Reaches k → m.time ≤ t := by
  constructor
  · intro h m hm hreaches
    have hget := get?_storeSuccess c k k data
    rw [if_pos rfl] at hget
    simpa using h k _ hget rfl m hm hreaches
  · intro hyoung k' e he hfresh m hm hreaches
    rw [get?_storeSuccess] at he
    by_cases hk : k' = k
    · subst hk
      rw [Function.update_self]
      exact hyoung m hm hreaches
    · rw [if_neg hk] at he
      rw [Function.update_of_ne hk]
      exact h k' e he hfresh m hm hreaches

theorem storeError (h : c.Timely origin applied) (k : Key) (f : Fault) :
    (c.storeError k f).Timely origin applied := by
  intro k' e he hfresh
  rw [get?_storeError] at he
  split_ifs at he with hk
  · obtain rfl := Option.some.inj he
    rw [stale_failedEntry] at hfresh
    contradiction
  · exact h k' e he hfresh

/-- What a change reaches is stale once its event has been dispatched. -/
theorem dispatch (h : c.Timely origin applied) (e : Event) (id : Option String) (t : ℕ) :
    (c.dispatch e id).1.Timely origin (⟨e, id, t⟩ :: applied) := by
  intro k entry hentry hfresh
  rw [get?_dispatch] at hentry
  obtain ⟨old, hold, rfl⟩ := Option.map_eq_some_iff.1 hentry
  split_ifs at hfresh with hreaches
  · contradiction
  · intro m hm hmk
    rcases List.mem_cons.1 hm with rfl | hm
    · exact absurd hmk hreaches
    · exact h k old hold hfresh m hm hmk

end Cache.Timely

/-! ### One move -/

namespace Traffic

variable {β : Type} {s : Traffic β}

theorem flights_unload (s : Traffic β) (f : Flight) : (s.unload f).flights = s.flights := by
  obtain ⟨t, cargo⟩ := f
  rcases cargo with ⟨q, _ | _⟩ | ⟨x, _ | _⟩ <;> rfl

theorem clock_unload (s : Traffic β) (f : Flight) : (s.unload f).clock = s.clock := by
  obtain ⟨t, cargo⟩ := f
  rcases cargo with ⟨q, _ | _⟩ | ⟨x, _ | _⟩ <;> rfl

theorem mem_applied_unload {f : Flight} {m : Applied} (h : m ∈ (s.unload f).applied) :
    m ∈ s.applied ∨ m.time = f.time := by
  obtain ⟨t, cargo⟩ := f
  rcases cargo with ⟨q, _ | _⟩ | ⟨x, _ | _⟩
  · exact .inl h
  · exact .inl h
  · exact .inl h
  · rcases List.mem_cons.1 h with rfl | h
    · exact .inr rfl
    · exact .inl h

theorem world_unload_fetched (s : Traffic β) (q : Query) (outcome : Except Fault q.Answer)
    (t : ℕ) : (s.unload ⟨t, .fetched q outcome⟩).world =
      s.world.withCache (q.handle.settle s.world.cache outcome).2 := by
  cases outcome <;> rfl

theorem not_overtaken_iff (k : Key) (t : ℕ) :
    ¬ s.Overtaken k t ↔ ∀ m ∈ s.applied, m.Reaches k → m.time ≤ t := by
  simp [Overtaken]

theorem lawful_unload_changed (h : s.Lawful) (x : Change) (a : x.Answer) (t : ℕ) :
    (s.unload ⟨t, .changed x (.ok a)⟩).Lawful ↔ ¬ ∃ k ∈ x.keep?, s.Overtaken k t := by
  have hdispatch := Cache.Timely.dispatch h x.event x.entity? t
  cases hkeep : x.keep? with
  | none =>
    have hlawful : (s.unload ⟨t, .changed x (.ok a)⟩).Lawful := by
      simpa [Lawful, unload, hkeep, World.withCache, Mutation.confirm, Change.mutation]
        using hdispatch
    exact iff_of_true hlawful (by simp)
  | some k =>
    have hstore := hdispatch.storeSuccess_iff k (x.shape.toPlain a) t
    have hlawful : (s.unload ⟨t, .changed x (.ok a)⟩).Lawful ↔
        ∀ m ∈ ⟨x.event, x.entity?, t⟩ :: s.applied, m.Reaches k → m.time ≤ t := by
      simpa [Lawful, unload, hkeep, World.withCache, Mutation.confirm, Change.mutation,
        Change.call] using hstore
    -- the answer is as young as the change itself
    rw [hlawful, List.forall_mem_cons, and_iff_right fun _ => le_rfl, ← not_overtaken_iff]
    simp

/-- A flight breaks the law just when it is belated. -/
theorem lawful_unload_iff (h : s.Lawful) (f : Flight) :
    (s.unload f).Lawful ↔ ¬ s.Belated f := by
  obtain ⟨t, cargo⟩ := f
  rcases cargo with ⟨q, f | a⟩ | ⟨x, f | a⟩
  · exact iff_of_true (h.storeError q.key f) not_false
  · exact (h.storeSuccess_iff q.key _ t).trans (not_overtaken_iff q.key t).symm
  · exact iff_of_true h not_false
  · exact lawful_unload_changed h x a t

/-- Nothing is under way, and all changes lie in the past. -/
structure Quiet (s : Traffic β) : Prop where
  flights : s.flights = []
  lawful : s.Lawful
  past : ∀ m ∈ s.applied, m.time < s.clock

/-- What has just been sent cannot have been overtaken. -/
theorem Quiet.unload (h : s.Quiet) {w : World β} (hcache : w.cache = s.world.cache)
    (cargo : Cargo) :
    ({ s with world := w, clock := s.clock + 1 }.unload ⟨s.clock, cargo⟩).Quiet := by
  have hlawful : { s with world := w, clock := s.clock + 1 }.Lawful := by
    simpa [Lawful, hcache] using h.lawful
  have hyoung (k : Key) : ¬ s.Overtaken k s.clock :=
    (not_overtaken_iff k s.clock).2 fun m hm _ => (h.past m hm).le
  have hbelated : ¬ { s with world := w, clock := s.clock + 1 }.Belated ⟨s.clock, cargo⟩ := by
    rcases cargo with ⟨q, _ | _⟩ | ⟨x, _ | _⟩
    · exact not_false
    · exact hyoung q.key
    · exact not_false
    · rintro ⟨k, -, hk⟩
      exact hyoung k hk
  refine ⟨(flights_unload _ _).trans h.flights, (lawful_unload_iff hlawful _).2 hbelated, ?_⟩
  intro m hm
  rw [clock_unload]
  rcases mem_applied_unload hm with hm | hm
  · exact (h.past m hm).trans (Nat.lt_succ_self _)
  · exact hm.trans_lt (Nat.lt_succ_self _)

variable [Backend β]

/-- A move breaks the law just when a belated flight lands. -/
theorem lawful_step_iff (h : s.Lawful) (m : Move) : (s.step m).Lawful ↔ ¬ s.Late m := by
  cases m with
  | fetch c q =>
    simp only [step, Late]
    split_ifs
    · exact iff_of_true h not_false
    · exact iff_of_true h not_false
  | change c x =>
    simp only [step, Late]
    split_ifs
    · exact iff_of_true h not_false
    · exact iff_of_true h not_false
  | land i =>
    cases hflight : s.flights[i]? with
    | none =>
      simp only [step, Late, hflight]
      exact iff_of_true h (by simp)
    | some f =>
      have hrest : { s with flights := s.flights.eraseIdx i }.Lawful := h
      simp only [step, Late, hflight, lawful_unload_iff hrest]
      simp [Belated, Overtaken]

/-! ### Calls that do not overlap -/

theorem step_fetch (s : Traffic β) (c : Client) (q : Query) : s.step (.fetch c q) =
    if c.ready then s.send (c.ask q.call s.world).2 (.fetched q (c.ask q.call s.world).1) else s :=
  rfl

theorem step_change (s : Traffic β) (c : Client) (x : Change) : s.step (.change c x) =
    if c.ready then s.send (c.ask x.call s.world).2 (.changed x (c.ask x.call s.world).1) else s :=
  rfl

theorem land_send (s : Traffic β) (w : World β) (cargo : Cargo) :
    (s.send w cargo).step (.land s.flights.length) =
      { s with world := w, clock := s.clock + 1 }.unload ⟨s.clock, cargo⟩ := by
  simp [step, send, List.eraseIdx_append_of_length_le]

/-- A fetch that lands at once is a revalidation. -/
theorem world_fetch_land (s : Traffic β) (c : Client) (q : Query) :
    ((s.step (.fetch c q)).step (.land s.flights.length)).world =
      (q.handle.revalidate c s.world).2 := by
  rw [step_fetch, Handle.revalidate]
  split_ifs
  · rw [land_send, world_unload_fetched, Handle.world_fetch]
    rfl
  · simp [step]

/-- A change that lands at once is run. -/
theorem world_change_land (s : Traffic β) (c : Client) (x : Change) :
    ((s.step (.change c x)).step (.land s.flights.length)).world =
      (x.mutation.run c s.world).2 := by
  by_cases hready : c.ready
  · rw [step_change, if_pos hready, land_send]
    cases houtcome : (c.ask x.call s.world).1 with
    | ok a =>
      rw [x.mutation.run_of_ok c s.world hready houtcome]
      rfl
    | error f =>
      rw [x.mutation.run_of_error c s.world hready houtcome]
      rfl
  · simp [step, hready, Mutation.run]

/-! ### Whole runs -/

def start (w : World β) : Traffic β := { world := w }

theorem run_concat (s : Traffic β) (ms : List Move) (m : Move) :
    s.run (ms ++ [m]) = (s.run ms).step m := by
  simp [run]

/-- From any cache on, in any order of sending and landing, the law holds throughout a run iff no
answer lands late in it. -/
theorem lawful_throughout_iff (w : World β) (ms : List Move) :
    (∀ before, before <+: ms → ((start w).run before).Lawful) ↔
      ∀ before m, before ++ [m] <+: ms → ¬ ((start w).run before).Late m := by
  constructor
  · intro h before m hprefix
    have hbefore := h before ((List.prefix_append before [m]).trans hprefix)
    have hafter := h (before ++ [m]) hprefix
    rw [run_concat] at hafter
    exact (lawful_step_iff hbefore m).1 hafter
  · intro h before
    induction before using List.reverseRecOn with
    | nil =>
      rintro - k e he hfresh m hm
      contradiction
    | append_singleton before m ih =>
      intro hprefix
      have hbefore := ih ((List.prefix_append before [m]).trans hprefix)
      rw [run_concat]
      exact (lawful_step_iff hbefore m).2 (h before m hprefix)

/-- A read that is overtaken by the removal of a repository leaves the old answer fresh. -/
theorem not_lawful_of_overtaken_read :
    let service := (Script.empty.onRaw .get "/api/v1/billing/usage" 200 "\x7b\x7d").onRaw .delete
      "/api/v1/repositories/7" 204 ""
    let client : Client := ⟨"http://localhost", none, true⟩
    ¬ ((start (.start service)).run
      [.fetch client .usage, .change client (.remove "7"), .land 1, .land 0]).Lawful := by
  intro service client h
  have hfresh : (((start (.start service)).run [.fetch client .usage,
      .change client (.remove "7"), .land 1, .land 0]).world.cache.get? Query.usage.key).map
        (·.stale) = some false := by
    decide +kernel
  obtain ⟨e, he, hstale⟩ := Option.map_eq_some_iff.1 hfresh
  have hlate := h _ e he hstale ⟨.repositoryRemoved, some "7", 1⟩ (by decide +kernel) (by decide)
  revert hlate
  decide +kernel

/-! ### Calls one after the other -/

/-- Each call lands before the next is sent. -/
def inTurn : List (Client × (Query ⊕ Change)) → List Move
  | [] => []
  | (c, .inl q) :: calls => .fetch c q :: .land 0 :: inTurn calls
  | (c, .inr x) :: calls => .change c x :: .land 0 :: inTurn calls

theorem Quiet.send_land (h : s.Quiet) {w : World β} (hcache : w.cache = s.world.cache)
    (cargo : Cargo) : ((s.send w cargo).step (.land 0)).Quiet := by
  have hlength : s.flights.length = 0 := List.length_eq_zero_iff.2 h.flights
  have hland := land_send s w cargo
  rw [hlength] at hland
  rw [hland]
  exact h.unload hcache cargo

theorem Quiet.land_nothing (h : s.Quiet) : (s.step (.land 0)).Quiet := by
  simpa [step, h.flights] using h

theorem Quiet.fetch_land (h : s.Quiet) (c : Client) (q : Query) :
    ((s.step (.fetch c q)).step (.land 0)).Quiet := by
  rw [step_fetch]
  split_ifs
  · exact h.send_land (c.cache_ask q.call s.world) _
  · exact h.land_nothing

theorem Quiet.change_land (h : s.Quiet) (c : Client) (x : Change) :
    ((s.step (.change c x)).step (.land 0)).Quiet := by
  rw [step_change]
  split_ifs
  · exact h.send_land (c.cache_ask x.call s.world) _
  · exact h.land_nothing

theorem Quiet.run_inTurn (h : s.Quiet) (calls : List (Client × (Query ⊕ Change))) :
    (s.run (inTurn calls)).Quiet := by
  induction calls generalizing s with
  | nil => exact h
  | cons call calls ih =>
    obtain ⟨c, q | x⟩ := call
    · exact ih (h.fetch_land c q)
    · exact ih (h.change_land c x)

/-- As long as calls are made one after the other, the law holds. -/
theorem lawful_run_inTurn (w : World β) (calls : List (Client × (Query ⊕ Change))) :
    ((start w).run (inTurn calls)).Lawful := by
  have hstart : (start w).Quiet := by
    refine ⟨rfl, ?_, ?_⟩
    · rintro k e he hfresh m ⟨⟩
    · rintro m ⟨⟩
  exact (hstart.run_inTurn calls).lawful

end Traffic

end CodeHealth
