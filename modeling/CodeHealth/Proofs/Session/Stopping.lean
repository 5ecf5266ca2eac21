import CodeHealth.Proofs.Cache.Entries
import CodeHealth.Proofs.Number.Successor
import CodeHealth.Proofs.Service.Query
import CodeHealth.Proofs.Session.Polling
import CodeHealth.Proofs.Session.Reading
import Mathlib

/-! What stops the poller of an analysis. It stops when the service answers its poll with a run that
is over. It also stops when its poll fails while the cache still holds such a run from an earlier
answer: the failure comes with that answer beside it, and the poller looks at the answer only. As
long as nobody else leaves a run that is over in the cache, a poller stops on what it was told. In
any case it has to count its poll first, and a poll that cannot be counted fails. -/

namespace CodeHealth

/-- What a fetch shows: the new answer, or the last one beside a failure. -/
theorem Handle.data_fetch {α β : Type} [Backend β] (h : Handle α) (c : Client) (w : World β) :
    (h.fetch c w).1.data =
      match (c.ask h.call w).1 with
      | .ok a => some a
      | .error _ => h.last? w.cache := by
  simp only [fetch, settle]
  cases (c.ask h.call w).1 with
  | ok a => rfl
  | error f => rfl

/-- The answer that a fetch leaves in the cache under the key of the handle. -/
theorem Handle.last?_fetch {α β : Type} [Backend β] (h : Handle α) (c : Client) (w : World β) :
    h.last? (h.fetch c w).2.cache =
      match (c.ask h.call w).1 with
      | .ok a => h.call.answer.ofJson (h.call.answer.toPlain a)
      | .error _ => h.last? w.cache := by
  rw [Handle.cache_fetch]
  cases (c.ask h.call w).1 with
  | ok a => simp [settle, last?, decode, Cache.get?_storeSuccess]
  | error f =>
    simp only [settle, last?, Cache.get?_storeError, decode]
    cases w.cache.get? h.key <;> rfl

/-- An event makes answers old, but keeps them. -/
theorem Cache.data_dispatch (c : Cache) (e : Event) (id : Option String) (k : Key) :
    ((c.dispatch e id).1.get? k).map (·.data) = (c.get? k).map (·.data) := by
  rw [Cache.get?_dispatch, Option.map_map]
  congr 1
  funext entry
  simp only [Function.comp_apply]
  split_ifs
  · rfl
  · rfl

/-- A change dispatches its event, and what it may keep beside that is a trial run. -/
theorem Change.data_confirm (x : Change) (c : Cache) (a : x.Answer) (q : Query) :
    ((x.mutation.confirm c a).get? q.key).map (·.data) = (c.get? q.key).map (·.data) := by
  have hdispatch := Cache.data_dispatch c x.event x.entity? q.key
  cases x with
  | preview id =>
    have hother := Cache.get?_storeSuccess (c.dispatch .fixPreviewed (some id)).1 (.fixPreview id)
      q.key (Preview.shape.toPlain a)
    rw [if_neg (q.key_ne_fixPreview id)] at hother
    exact (congrArg _ hother).trans hdispatch
  | _ => exact hdispatch

namespace Poller

variable {β : Type} [Backend β]

/-! ### One poll -/

section

variable (p : Poller) (c : Client) (w : World β)

/-- The service answers the poll with a run that is over. -/
def Sees (run : Run) : Prop :=
  ∃ r, (w.send c.baseUrl (c.request p.handle.call)).1 = .ok r ∧ r.isSuccess ∧
    Run.shape.read (bodyText r.body) = some run ∧ run.status.isTerminal

/-- The poll fails, and a run that is over is still in the cache. -/
def Recalls (run : Run) : Prop :=
  (∃ f, (c.ask p.handle.call w).1 = .error f) ∧ p.handle.last? w.cache = some run ∧
    run.status.isTerminal

theorem sees_iff (run : Run) :
    p.Sees c w run ↔ (c.ask p.handle.call w).1 = .ok run ∧ run.status.isTerminal := by
  have hask : (c.ask p.handle.call w).1 =
      p.handle.call.outcome (w.send c.baseUrl (c.request p.handle.call)).1 := rfl
  have hanswer : p.handle.call.answer = Run.shape := rfl
  rw [hask, Call.outcome_eq_ok_iff, hanswer]
  constructor
  · rintro ⟨r, hreply, hsuccess, hrun, hover⟩
    exact ⟨⟨r, hreply, hsuccess, hrun⟩, hover⟩
  · rintro ⟨⟨r, hreply, hsuccess, hrun⟩, hover⟩
    exact ⟨r, hreply, hsuccess, hrun, hover⟩

/-- The run that would stop the poller. -/
def ending : Option Run := (p.handle.fetch c w).1.data.filter (·.status.isTerminal)

theorem ending_eq_some_iff (run : Run) :
    p.ending c w = some run ↔ p.Sees c w run ∨ p.Recalls c w run := by
  rw [ending, Option.filter_eq_some_iff, Handle.data_fetch, sees_iff, Recalls]
  cases (c.ask p.handle.call w).1 with
  | ok run' => simp
  | error f => simp

/-- One more request can be counted. -/
def HasRoom : Prop := p.polls.toNat + 1 < 2 ^ 32

/-- The poller after a fetch that has been counted. -/
def fetched : Poller := { p with polls := p.polls + 1, last := some (p.handle.fetch c w).1 }

theorem polls_fetched (hroom : p.HasRoom) : (p.fetched c w).polls.toNat = p.polls.toNat + 1 :=
  Number.toNat_add_one_of_lt hroom

/-- All that a poll of a poller that is polling can do. -/
theorem polling_cases (hphase : p.phase = .polling) :
    (c.ready = false ∧ p.poll c w = (some .pending, p, w)) ∨
    (c.ready ∧ ¬ p.HasRoom ∧ p.poll c w = (none, p, (p.handle.fetch c w).2)) ∨
    (c.ready ∧ p.HasRoom ∧ p.ending c w = none ∧
      p.poll c w = (some (p.handle.fetch c w).1, p.fetched c w, (p.handle.fetch c w).2)) ∨
    ∃ run, c.ready ∧ p.HasRoom ∧ p.ending c w = some run ∧
      p.poll c w = (some (p.handle.fetch c w).1, { p.fetched c w with phase := .stopped },
        announce (p.handle.fetch c w).2 run) := by
  cases hready : c.ready with
  | false =>
    left
    simp only [poll, hphase, p.handle.revalidate_of_not_ready _ _ hready]
    exact ⟨trivial, rfl⟩
  | true =>
    right
    by_cases hroom : p.HasRoom
    · right
      cases hend : p.ending c w with
      | none =>
        left
        rw [ending] at hend
        simp only [poll, hphase, p.handle.revalidate_of_ready _ _ hready, Handle.loading_fetch, hend,
          Number.succ?_of_lt hroom, hroom, fetched, Bool.false_eq_true, ↓reduceIte, and_self]
      | some run =>
        refine .inr ⟨run, rfl, hroom, rfl, ?_⟩
        rw [ending] at hend
        simp only [poll, hphase, p.handle.revalidate_of_ready _ _ hready, Handle.loading_fetch, hend,
          Number.succ?_of_lt hroom, fetched, Bool.false_eq_true, ↓reduceIte]
    · left
      have hfull : p.polls.toNat + 1 = 2 ^ 32 :=
        (Nat.succ_le_of_lt p.polls.toNat_lt).eq_or_lt.resolve_right hroom
      refine ⟨rfl, hroom, ?_⟩
      simp only [poll, hphase, p.handle.revalidate_of_ready _ _ hready, Handle.loading_fetch,
        Number.succ?_eq_none_iff.2 hfull, Bool.false_eq_true, ↓reduceIte]

theorem stopped_poll_iff (hphase : p.phase = .polling) : (p.poll c w).2.1.phase = .stopped ↔
    c.ready ∧ p.HasRoom ∧ ∃ run, p.ending c w = some run := by
  rcases p.polling_cases c w hphase with ⟨hready, heq⟩ | ⟨hready, hroom, heq⟩ |
    ⟨hready, hroom, hend, heq⟩ | ⟨run, hready, hroom, hend, heq⟩
  · simp [heq, hphase, hready]
  · simp [heq, hphase, hroom]
  · simp [heq, hphase, hend, fetched]
  · simp [heq, hready, hroom, hend]

/-- A poll that stops the poller announces the run. -/
theorem world_poll_of_ending {run : Run} (hphase : p.phase = .polling) (hready : c.ready)
    (hroom : p.HasRoom) (hend : p.ending c w = some run) :
    (p.poll c w).2.2 = announce (p.handle.fetch c w).2 run := by
  rcases p.polling_cases c w hphase with
    ⟨hclosed, -⟩ | ⟨-, hfull, -⟩ | ⟨-, -, hnone, -⟩ | ⟨run', -, -, hend', heq⟩
  · exact absurd (hclosed.symm.trans hready) (by decide)
  · exact absurd hroom hfull
  · cases hnone.symm.trans hend
  · rw [heq, Option.some.inj (hend'.symm.trans hend)]

/-- A poll that does not stop the poller is a revalidation. -/
theorem world_poll_of_polling (hphase : p.phase = .polling)
    (hpolling : (p.poll c w).2.1.phase = .polling) :
    (p.poll c w).2.2 = (p.handle.revalidate c w).2 := by
  rcases p.polling_cases c w hphase with
    ⟨hready, heq⟩ | ⟨hready, -, heq⟩ | ⟨hready, -, -, heq⟩ | ⟨run, -, -, -, heq⟩
  · rw [heq, p.handle.revalidate_of_not_ready c w hready]
  · rw [heq, p.handle.revalidate_of_ready c w hready]
  · rw [heq, p.handle.revalidate_of_ready c w hready]
  · rw [heq] at hpolling
    contradiction

theorem sent_poll (hphase : p.phase = .polling) (hready : c.ready) :
    (p.poll c w).2.2.sent = w.sent ++ [c.outgoing p.handle.call] := by
  rcases p.polling_cases c w hphase with
    ⟨hclosed, -⟩ | ⟨-, -, heq⟩ | ⟨-, -, -, heq⟩ | ⟨run, -, -, -, heq⟩
  · exact absurd (hclosed.symm.trans hready) (by decide)
  · rw [heq, Handle.sent_fetch]
  · rw [heq, Handle.sent_fetch]
  · rw [heq, sent_announce, Handle.sent_fetch]

/-- A poll fails if its request has been sent and cannot be counted. -/
theorem state_poll_eq_none_iff (hphase : p.phase = .polling) :
    (p.poll c w).1 = none ↔ c.ready ∧ ¬ p.HasRoom := by
  rcases p.polling_cases c w hphase with ⟨hready, heq⟩ | ⟨hready, hroom, heq⟩ |
    ⟨hready, hroom, -, heq⟩ | ⟨run, hready, hroom, -, heq⟩
  · simp [heq, hready]
  · simp [heq, hready, hroom]
  · simp [heq, hroom]
  · simp [heq, hroom]

/-- A poller looks at the same run all its life, and it counts a poll once at most. -/
theorem poll_spec : (p.poll c w).2.1.handle = p.handle ∧
    p.polls.toNat ≤ (p.poll c w).2.1.polls.toNat ∧
    (p.poll c w).2.1.polls.toNat ≤ p.polls.toNat + 1 := by
  cases hphase : p.phase with
  | stopped => simp [poll, hphase]
  | polling =>
    rcases p.polling_cases c w hphase with
      ⟨-, heq⟩ | ⟨-, -, heq⟩ | ⟨-, hroom, -, heq⟩ | ⟨run, -, hroom, -, heq⟩
    · rw [heq]
      exact ⟨rfl, le_rfl, Nat.le_succ _⟩
    · rw [heq]
      exact ⟨rfl, le_rfl, Nat.le_succ _⟩
    · have hpolls := p.polls_fetched c w hroom
      rw [heq]
      exact ⟨rfl, hpolls ▸ Nat.le_succ _, hpolls.le⟩
    · have hpolls := p.polls_fetched c w hroom
      rw [heq]
      exact ⟨rfl, hpolls ▸ Nat.le_succ _, hpolls.le⟩

@[simp] theorem handle_poll : (p.poll c w).2.1.handle = p.handle := (p.poll_spec c w).1

theorem hasRoom_of_poll (h : (p.poll c w).2.1.HasRoom) : p.HasRoom :=
  (Nat.succ_le_succ (p.poll_spec c w).2.1).trans_lt h

/-- Exactly what stops a poller, and what then happens to the cache. A poller that has not stopped
sends a request whenever it is next polled through an open gate; the poll fails if that is one
request too many. -/
theorem stops_iff_sees_or_recalls (hphase : p.phase = .polling) :
    ((p.poll c w).2.1.phase = .stopped ↔
      c.ready ∧ p.HasRoom ∧ ∃ run, p.Sees c w run ∨ p.Recalls c w run) ∧
    (∀ run, c.ready → p.HasRoom → p.Sees c w run ∨ p.Recalls c w run →
      (p.poll c w).2.2 = announce (p.handle.fetch c w).2 run) ∧
    ((p.poll c w).2.1.phase = .polling →
      (p.poll c w).2.2 = (p.handle.revalidate c w).2 ∧
      ∀ (c' : Client) (w' : World β), c'.ready → ((p.poll c w).2.1.poll c' w').2.2.sent =
        w'.sent ++ [c'.outgoing p.handle.call]) ∧
    ((p.poll c w).1 = none ↔ c.ready ∧ ¬ p.HasRoom) := by
  simp only [← ending_eq_some_iff]
  refine ⟨p.stopped_poll_iff c w hphase, fun run hready hroom hend => ?_, fun hpolling => ⟨?_, ?_⟩,
    p.state_poll_eq_none_iff c w hphase⟩
  · exact p.world_poll_of_ending c w hphase hready hroom hend
  · exact p.world_poll_of_polling c w hphase hpolling
  · intro c' w' hready'
    rw [sent_poll _ c' w' hpolling hready', handle_poll]

end

/-- A poller stops at once if the run is over when it looks at it first. -/
theorem sees_completed_run :
    let service := Script.empty.onRaw .get "/api/v1/analysis/r/status" 200
      "\x7b\"id\":\"r\",\"status\":\"completed\"\x7d"
    let client : Client := ⟨"http://localhost", none, true⟩
    let p : Poller := { runId := "r", intervalMs := 0 }
    p.phase = .polling ∧ ∃ run, p.Sees client (.start service) run ∧
      (p.poll client (.start service)).2.2 =
        announce (p.handle.fetch client (.start service)).2 run := by
  intro service client p
  obtain ⟨hstops, hannounce, -⟩ := p.stops_iff_sees_or_recalls client (.start service) rfl
  obtain ⟨hready, hroom, run, hrun⟩ := hstops.1 (by decide +kernel)
  obtain hsees | ⟨-, hlast, -⟩ := hrun
  · exact ⟨rfl, run, hsees, hannounce run hready hroom (.inl hsees)⟩
  · cases hlast

/-- A poll that is answered with a failure stops a second poller of a run that is over. -/
theorem stopped_poll_of_failure :
    let reply : Response := ⟨200, "\x7b\"id\":\"r\",\"status\":\"completed\"\x7d"⟩
    let service := Script.empty.on .get "/api/v1/analysis/r/status" [.ok reply, .ok ⟨500, ""⟩]
    let client : Client := ⟨"http://localhost", none, true⟩
    let p : Poller := { runId := "r", intervalMs := 0 }
    let w := (p.poll client (.start service)).2.2
    (p.poll client w).2.1.phase = .stopped ∧ ¬ ∃ run, p.Sees client w run := by
  intro reply service client p w
  constructor
  · decide +kernel
  · rintro ⟨run, r, hreply, hsuccess, -⟩
    have hfailure : (w.send client.baseUrl (client.request p.handle.call)).1.toOption =
        some ⟨500, ""⟩ := by
      decide +kernel
    rw [hreply] at hfailure
    obtain rfl := Option.some.inj hfailure
    contradiction

/-! ### New pollers -/

section

variable (p : Poller) (c : Client) (w : World β)

theorem isSome_poll (hroom : p.HasRoom) : (p.poll c w).1.isSome := by
  rw [Option.isSome_iff_ne_none]
  intro hnone
  cases hphase : p.phase with
  | stopped => simp [poll, hphase] at hnone
  | polling => exact ((p.state_poll_eq_none_iff c w hphase).1 hnone).2 hroom

theorem isSome_follow {more : ℕ} (h : p.polls.toNat + more + 1 < 2 ^ 32) :
    (p.follow c w more).1.isSome := by
  induction more generalizing p w with
  | zero =>
    rw [follow, Option.isSome_map]
    exact p.isSome_poll c w h
  | succ more ih =>
    have hroom : p.HasRoom := by
      unfold HasRoom
      omega
    have hsome := p.isSome_poll c w hroom
    simp only [follow]
    rcases hlook : p.poll c w with ⟨_ | state, p', w'⟩
    · rw [hlook] at hsome
      cases hsome
    · have hcount : p'.polls.toNat ≤ p.polls.toNat + 1 := by
        simpa only [hlook] using (p.poll_spec c w).2.2
      simp only
      split_ifs
      · rfl
      · rw [Option.isSome_map]
        exact ih p' w' (by omega)

/-- The polls of a new poller can all be counted, as many as a run may make. -/
theorem isSome_run_of_new (runId : String) (intervalMs : UInt64) (maxPolls : UInt32) :
    (({ runId, intervalMs } : Poller).run c w maxPolls.toNat).1.isSome := by
  have hlt := maxPolls.toNat_lt
  refine isSome_follow _ c w ?_
  change 0 + (maxPolls.toNat - 1) + 1 < 2 ^ 32
  omega

end

/-! ### A poller that is the only one to look at its run -/

/-- No run that is over is in the cache for the poller. -/
def Unended (p : Poller) (cache : Cache) : Prop :=
  ∀ run, p.handle.last? cache = some run → run.status.isTerminal = false

section

variable {p : Poller} {c : Client} {w : World β}

theorem Unended.not_recalls (h : p.Unended w.cache) (run : Run) : ¬ p.Recalls c w run := by
  rintro ⟨-, hlast, hover⟩
  exact absurd hover (by simp [h run hlast])

/-- A run that was read comes back from the cache with the status that it had. -/
theorem status_of_kept {seen run : Run} (hask : (c.ask p.handle.call w).1 = .ok seen)
    (hback : Run.shape.ofJson (Run.shape.toPlain seen) = some run) : run.status = seen.status := by
  obtain ⟨r, hreply⟩ : ∃ r, (c.ask p.handle.call w).1 = p.handle.call.outcome r := ⟨_, rfl⟩
  have hcall : p.handle.call = (Query.runStatus p.runId).call := rfl
  rw [hask, hcall] at hreply
  have hkept := Query.ofJson_toPlain_of_outcome hreply.symm
  obtain rfl := Option.some.inj (hback.symm.trans hkept)
  rfl

/-- A poll that is counted and does not stop the poller leaves no run that is over in the cache. -/
theorem Unended.poll (h : p.Unended w.cache) (hphase : p.phase = .polling) (hroom : p.HasRoom)
    (hpolling : (p.poll c w).2.1.phase = .polling) :
    (p.poll c w).2.1.Unended (p.poll c w).2.2.cache := by
  rw [Unended, handle_poll]
  rcases p.polling_cases c w hphase with
    ⟨-, heq⟩ | ⟨-, hfull, -⟩ | ⟨-, -, hend, heq⟩ | ⟨run, -, -, -, heq⟩
  · rw [heq]
    exact h
  · exact absurd hroom hfull
  · rw [heq]
    intro run hrun
    rw [Handle.last?_fetch] at hrun
    rw [ending, Handle.data_fetch] at hend
    -- a failure leaves the last answer in its place; a new answer replaces it, and is not over
    cases hask : (c.ask p.handle.call w).1 with
    | error f =>
      rw [hask] at hrun
      exact h run hrun
    | ok seen =>
      rw [hask] at hrun hend
      rw [status_of_kept hask hrun]
      simpa using hend
  · rw [heq] at hpolling
    contradiction

end

/-- The world changes, but the last answer for the poller stays what it is. -/
def Spares (p : Poller) (f : World β → World β) : Prop :=
  ∀ w, p.handle.last? (f w).cache = p.handle.last? w.cache

/-- Several polls, after each of which the world changes. -/
def watch (p : Poller) (w : World β) : List (Client × (World β → World β)) → Poller × World β
  | [] => (p, w)
  | (c, f) :: more => (p.poll c w).2.1.watch (f (p.poll c w).2.2) more

section

variable {p : Poller} {w : World β} {steps : List (Client × (World β → World β))}

theorem polling_of_watch (h : (p.watch w steps).1.phase = .polling) : p.phase = .polling := by
  induction steps generalizing p w with
  | nil => exact h
  | cons x steps ih =>
    cases hphase : p.phase with
    | polling => rfl
    | stopped =>
      have hstays : (p.poll x.1 w).2.1 = p := by simp [Poller.poll, hphase]
      have hpolling := ih h
      rw [hstays, hphase] at hpolling
      contradiction

theorem hasRoom_of_watch (h : (p.watch w steps).1.HasRoom) : p.HasRoom := by
  induction steps generalizing p w with
  | nil => exact h
  | cons x steps ih => exact p.hasRoom_of_poll x.1 w (ih h)

theorem Unended.watch (h : p.Unended w.cache) (hspares : ∀ x ∈ steps, p.Spares x.2)
    (hroom : (p.watch w steps).1.HasRoom) (hpolling : (p.watch w steps).1.phase = .polling) :
    (p.watch w steps).1.Unended (p.watch w steps).2.cache := by
  induction steps generalizing p w with
  | nil => exact h
  | cons x steps ih =>
    have hfirst : p.phase = .polling := polling_of_watch hpolling
    have hnext : (p.poll x.1 w).2.1.phase = .polling := polling_of_watch hpolling
    refine ih ?_ ?_ hroom hpolling
    · have hpoll := h.poll hfirst (hasRoom_of_watch hroom) hnext
      rw [Unended, handle_poll] at hpoll ⊢
      rw [hspares x List.mem_cons_self]
      exact hpoll
    · intro y hy
      rw [Spares, handle_poll]
      exact hspares y (List.mem_cons_of_mem x hy)

/-- As long as only the poller puts runs under its key, it stops on what it was told, and on nothing
else. -/
theorem stopped_watch_iff (h : p.Unended w.cache) (hspares : ∀ x ∈ steps, p.Spares x.2)
    (hpolling : (p.watch w steps).1.phase = .polling) (c : Client) :
    ((p.watch w steps).1.poll c (p.watch w steps).2).2.1.phase = .stopped ↔
      c.ready ∧ (p.watch w steps).1.HasRoom ∧
        ∃ run, (p.watch w steps).1.Sees c (p.watch w steps).2 run := by
  rw [stopped_poll_iff _ c _ hpolling]
  refine and_congr_right fun _ => and_congr_right fun hroom => ?_
  have hcache := h.watch hspares hroom hpolling
  simp only [ending_eq_some_iff, hcache.not_recalls, or_false]

end

/-! ### What others leave alone -/

variable (p : Poller)

/-- The last answer for the poller depends on its entry only, and there on the data. -/
theorem last?_congr {c c' : Cache}
    (h : (c'.get? p.handle.key).map (·.data) = (c.get? p.handle.key).map (·.data)) :
    p.handle.last? c' = p.handle.last? c := by
  have hlast (c : Cache) : p.handle.last? c =
      ((c.get? p.handle.key).map (·.data)).bind fun data =>
        data.bind p.handle.call.answer.ofJson := by
    rw [Option.bind_map]
    rfl
  rw [hlast, hlast, h]

omit [Backend β] in
theorem spares_dispatch (e : Event) (id : Option String) :
    p.Spares fun w : World β => (w.dispatch e id).1 :=
  fun w => p.last?_congr (Cache.data_dispatch w.cache e id _)

/-- A fetch of anything else is kept under another key. -/
theorem spares_revalidate {q : Query} (hq : q ≠ .runStatus p.runId) (c : Client) :
    p.Spares fun w : World β => (q.handle.revalidate c w).2 := by
  intro w
  beta_reduce
  have hkey : p.handle.key ≠ q.handle.key := fun h => hq (Query.key_injective h.symm)
  obtain heq | heq := q.handle.revalidate_eq c w
  · rw [heq]
  · refine p.last?_congr ?_
    rw [heq, q.handle.get?_fetch_of_ne c w hkey]

theorem spares_change (x : Change) (c : Client) :
    p.Spares fun w : World β => (x.mutation.run c w).2 := by
  intro w
  beta_reduce
  obtain ⟨e, heq⟩ | ⟨e, heq⟩ | ⟨a, heq⟩ := x.mutation.run_cases c w
  · rw [heq]
  · rw [heq, Client.cache_ask]
  · rw [heq]
    exact p.last?_congr (x.data_confirm w.cache a (.runStatus p.runId))

end Poller

end CodeHealth
