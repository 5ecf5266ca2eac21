import CodeHealth.Proofs.Service.Query
import CodeHealth.Proofs.Session.Exchange
import CodeHealth.Proofs.Session.Journal
import Mathlib

/-! When a read sends a request. After any run of a session, whoever took part in it, a read of a
ready client is answered from the cache iff an answer stands by the journal, and it is then the
last answer that was fetched; otherwise the read sends its own request and no other. Every action
of a session keeps the cache in agreement with the journal; the entry of a query is the only
thing that has to be looked at, since no two queries share a key. -/

namespace CodeHealth

/-- What the cache holds for `q` agrees with the journal: the last answer as long as it stands, and
otherwise nothing that counts as fresh. -/
structure Agrees (q : Query) (ns : List Note) (entry : Option Entry) : Prop where
  standing : Standing q ns → ∃ a fetches, latest? q ns = some a ∧
    q.shape.ofJson (q.shape.toPlain a) = some (q.shape.kept a) ∧
    entry = some ⟨some (q.shape.toPlain a), none, false, fetches⟩
  fallen : ¬ Standing q ns → ∀ e ∈ entry, e.stale = true

/-- The cache agrees with the journal on every query. -/
def Cache.Agrees (c : Cache) (ns : List Note) : Prop := ∀ q, CodeHealth.Agrees q ns (c.get? q.key)

/-! ### One more note -/

section

variable {q : Query} {ns : List Note} {n : Note} {entry : Option Entry}

/-- A note of something else changes nothing. -/
theorem Agrees.concat_other (h : Agrees q ns entry) (hanswer : n.answer? q = none)
    (hspoils : ¬ n.Spoils q) : Agrees q (ns ++ [n]) entry := by
  have hstanding : Standing q (ns ++ [n]) ↔ Standing q ns := by
    simp [standing_concat, hanswer, hspoils]
  refine ⟨fun hs => ?_, fun hs => h.fallen (mt hstanding.2 hs)⟩
  rw [latest?_concat, hanswer, Option.none_or]
  exact h.standing (hstanding.1 hs)

/-- A new answer stands. -/
theorem Agrees.concat_answer {a : q.Answer} {fetches : ℕ} (hanswer : n.answer? q = some a)
    (hback : q.shape.ofJson (q.shape.toPlain a) = some (q.shape.kept a)) :
    Agrees q (ns ++ [n]) (some ⟨some (q.shape.toPlain a), none, false, fetches⟩) := by
  have hstanding : Standing q (ns ++ [n]) := by
    simp [standing_concat, hanswer]
  refine ⟨fun _ => ⟨a, fetches, ?_, hback, rfl⟩, fun hs => absurd hstanding hs⟩
  rw [latest?_concat, hanswer, Option.some_or]

/-- What is spoilt stands no longer. -/
theorem Agrees.concat_spoilt (hanswer : n.answer? q = none) (hspoils : n.Spoils q)
    (hstale : ∀ e ∈ entry, e.stale = true) : Agrees q (ns ++ [n]) entry := by
  have hstanding : ¬ Standing q (ns ++ [n]) := by
    simp [standing_concat, hanswer, hspoils]
  exact ⟨fun hs => absurd hs hstanding, fun _ => hstale⟩

end

/-! ### Changes of the cache -/

namespace Cache.Agrees

variable {c : Cache} {ns : List Note}

theorem empty : Cache.empty.Agrees [] := by
  intro q
  refine ⟨fun hs => absurd hs not_since_nil, fun _ e he => ?_⟩
  simp at he

/-- Nothing happens. -/
theorem silent (h : c.Agrees ns) : c.Agrees (ns ++ []) := by
  rw [List.append_nil]
  exact h

/-- The outcome of a fetch is recorded and noted. -/
theorem settle (h : c.Agrees ns) (q : Query) {outcome : Except Fault q.Answer}
    (hback : ∀ a, outcome = .ok a → q.shape.ofJson (q.shape.toPlain a) = some (q.shape.kept a)) :
    (q.handle.settle c outcome).2.Agrees (ns ++ [.fetched q outcome]) := by
  intro r
  by_cases hrq : r = q
  · subst hrq
    cases outcome with
    | ok a =>
      have hget : (r.handle.settle c (.ok a)).2.get? r.key = some ⟨some (r.shape.toPlain a), none,
          false, ((c.get? r.key).map (·.fetches)).getD 0 + 1⟩ := by
        simp only [Handle.settle, Query.handle, get?_storeSuccess, if_pos, Query.call]
      rw [hget]
      exact .concat_answer (by simp [Note.answer?]) (hback a rfl)
    | error f =>
      have hget : (r.handle.settle c (.error f)).2.get? r.key =
          some (failedEntry (c.get? r.key) f) := by
        simp only [Handle.settle, Query.handle, get?_storeError, if_pos]
      rw [hget]
      refine .concat_spoilt rfl rfl ?_
      rintro e ⟨⟩
      exact stale_failedEntry _ f
  -- another query has another key
  · have hkey : r.key ≠ q.key := Query.key_injective.ne hrq
    have hget : (q.handle.settle c outcome).2.get? r.key = c.get? r.key := by
      cases outcome <;>
        simp only [Handle.settle, Query.handle, get?_storeSuccess, get?_storeError, if_neg hkey]
    rw [hget]
    cases outcome with
    | ok a => exact (h r).concat_other (by simp [Note.answer?, Ne.symm hrq]) (by simp [Note.Spoils])
    | error f => exact (h r).concat_other rfl (Ne.symm hrq)

theorem dispatch (h : c.Agrees ns) (e : Event) (id : Option String) :
    (c.dispatch e id).1.Agrees (ns ++ [.dispatched e id]) := by
  intro q
  rw [get?_dispatch]
  by_cases hreaches : e.reaches id q.key
  · refine .concat_spoilt rfl hreaches ?_
    intro entry hentry
    obtain ⟨old, -, rfl⟩ := Option.map_eq_some_iff.1 hentry
    rw [if_pos hreaches]
    rfl
  · have hsame : ((c.get? q.key).map fun entry =>
        if e.reaches id q.key then entry.marked else entry) = c.get? q.key := by
      simp [hreaches]
    rw [hsame]
    exact (h q).concat_other rfl hreaches

/-- An entry that belongs to no query is of no consequence. -/
theorem storeSuccess_other (h : c.Agrees ns) {k : Key} (hk : ∀ q : Query, q.key ≠ k)
    (data : Json) : (c.storeSuccess k data).Agrees ns := by
  intro q
  rw [get?_storeSuccess, if_neg (hk q)]
  exact h q

theorem confirm (h : c.Agrees ns) (x : Change) (a : x.Answer) :
    (x.mutation.confirm c a).Agrees (ns ++ [.dispatched x.event x.entity?]) := by
  have hdispatch := h.dispatch x.event x.entity?
  unfold Mutation.confirm
  cases x with
  | preview id => exact hdispatch.storeSuccess_other (fun q => q.key_ne_fixPreview id) _
  | _ => exact hdispatch

end Cache.Agrees

/-! ### Actions of a session -/

namespace Poller

variable {β : Type} (p : Poller)

theorem sent_announce (w : World β) (run : Run) : (announce w run).sent = w.sent := by
  unfold announce
  split_ifs <;> rfl

variable [Backend β]

/-- A poller that has stopped does nothing; any other looks at its run, and announces it if the
run is over and the look can be counted. -/
theorem poll_cases (c : Client) (w : World β) :
    (p.poll c w).2 = (p, w) ∨
    (∃ p', p'.phase = p.phase ∧ (p.poll c w).2 = (p', (p.handle.revalidate c w).2)) ∨
    ∃ p' run, p'.phase ≠ p.phase ∧ (p.handle.revalidate c w).1.data = some run ∧ p.poll c w =
      (some (p.handle.revalidate c w).1, p', announce (p.handle.revalidate c w).2 run) := by
  unfold poll
  split
  · exact .inl rfl
  · rename_i hphase
    right
    simp only
    split_ifs with hloading
    · exact .inl ⟨p, rfl, rfl⟩
    · split
      · exact .inl ⟨p, rfl, rfl⟩
      · rename_i polls hcount
        split
        · rename_i run hrun
          exact .inr ⟨_, run, by simp [hphase], Option.eq_some_of_filter_eq_some hrun, rfl⟩
        · exact .inl ⟨{ p with polls, last := _ }, rfl, rfl⟩

end Poller

namespace Cache.Agrees

variable {β : Type} {w : World β} {ns : List Note}

theorem announce (h : w.cache.Agrees ns) (run : Run) :
    (Poller.announce w run).cache.Agrees (ns ++ Poller.announced run) := by
  unfold Poller.announce Poller.announced
  split_ifs
  · exact h.dispatch .analysisCompleted (some run.id)
  · exact h.silent

variable [Backend β]

/-- A fetch is noted because its request has been sent. -/
theorem notes_fetch (q : Query) (c : Client) (w : World β) :
    q.notes c w (q.handle.fetch c w).2 = [.fetched q (c.ask q.call w).1] := by
  unfold Query.notes
  rw [Handle.sent_fetch, if_neg]
  simp

theorem notes_self (q : Query) (c : Client) (w : World β) : q.notes c w w = [] := by
  unfold Query.notes
  rw [if_pos rfl]

theorem fetch (h : w.cache.Agrees ns) (q : Query) (c : Client) :
    (q.handle.fetch c w).2.cache.Agrees (ns ++ q.notes c w (q.handle.fetch c w).2) := by
  obtain ⟨reply, hreply⟩ := c.outcome_ask q.call w
  rw [notes_fetch, Handle.cache_fetch]
  exact h.settle q fun a ha => Query.ofJson_toPlain_of_outcome (hreply.symm.trans ha)

theorem read (h : w.cache.Agrees ns) (q : Query) (c : Client) :
    (q.handle.read c w).2.cache.Agrees (ns ++ q.notes c w (q.handle.read c w).2) := by
  rcases q.handle.read_eq c w with heq | heq
  · rw [heq, notes_self]
    exact h.silent
  · rw [heq]
    exact h.fetch q c

theorem revalidate (h : w.cache.Agrees ns) (q : Query) (c : Client) :
    (q.handle.revalidate c w).2.cache.Agrees (ns ++ q.notes c w (q.handle.revalidate c w).2) := by
  rcases q.handle.revalidate_eq c w with heq | heq
  · rw [heq, notes_self]
    exact h.silent
  · rw [heq]
    exact h.fetch q c

theorem change (h : w.cache.Agrees ns) (x : Change) (c : Client) :
    (x.mutation.run c w).2.cache.Agrees (ns ++ x.notes (x.mutation.run c w).1) := by
  rcases x.mutation.run_cases c w with ⟨e, heq⟩ | ⟨e, heq⟩ | ⟨a, heq⟩
  · rw [heq]
    exact h.silent
  · rw [heq]
    exact h.silent
  · rw [heq]
    exact h.confirm x a

theorem poll (h : w.cache.Agrees ns) (p : Poller) (c : Client) :
    (p.poll c w).2.2.cache.Agrees (ns ++ p.notes c w) := by
  have hlook := h.revalidate (.runStatus p.runId) c
  rcases p.poll_cases c w with heq | ⟨p', hphase, heq⟩ | ⟨p', run, hphase, hdata, heq⟩
  · simp only [Poller.notes, heq, notes_self, ↓reduceIte, List.append_nil]
    exact h
  · simp only [Poller.notes, heq, hphase, ↓reduceIte, List.append_nil]
    exact hlook
  · have hsent : (Query.runStatus p.runId).notes c w
        (Poller.announce (p.handle.revalidate c w).2 run) =
        (Query.runStatus p.runId).notes c w (p.handle.revalidate c w).2 := by
      simp only [Query.notes, Poller.sent_announce]
    simp only [Poller.notes, heq, if_neg hphase, Option.bind_some, hdata, Option.map_some,
      Option.getD_some, hsent]
    rw [← List.append_assoc]
    exact hlook.announce run

theorem follow (h : w.cache.Agrees ns) (p : Poller) (c : Client) (more : ℕ) :
    (p.follow c w more).2.2.cache.Agrees (ns ++ p.followNotes c w more) := by
  induction more generalizing p w ns with
  | zero => exact h.poll p c
  | succ more ih =>
    have hpoll := h.poll p c
    simp only [Poller.follow, Poller.followNotes]
    rcases hlook : p.poll c w with ⟨_ | state, p', w'⟩
    · rw [hlook] at hpoll
      simpa using hpoll
    · rw [hlook] at hpoll
      simp only [reduceCtorEq, false_or]
      split_ifs
      · rw [List.append_nil]
        exact hpoll
      · rw [← List.append_assoc]
        exact ih hpoll p'

theorem bulkMark (h : w.cache.Agrees ns) (l : FindingsList) (status : TriageStatus)
    (reason : Option String) (c : Client) :
    (l.bulkMark status reason c w).2.2.cache.Agrees
      (ns ++ (Change.triageAll l.selection status reason).notes
        (l.bulkMark status reason c w).1) := by
  have hchange := h.change (.triageAll l.selection status reason) c
  rcases l.bulkMark_cases status reason c w with
    ⟨-, heq⟩ | ⟨-, w', ⟨e, hrun, heq⟩ | ⟨r, hrun, heq⟩⟩
  · rw [heq]
    exact h.silent
  · rw [hrun] at hchange
    rw [heq]
    exact hchange
  · rw [hrun] at hchange
    rw [heq]
    exact hchange

variable {ι : Type} {s : Session ι β}

theorem screenStep (h : s.world.cache.Agrees ns) (v : Screen ι) (t : ScreenStep) :
    (s.screenStep v t).2.2.world.cache.Agrees (ns ++ s.screenNotes v t) := by
  cases t with
  | load => exact h.read (.findings v.list.filters v.list.params) (s.clients v.who)
  | summary => exact h.read (.findingsSummary v.list.filters.repositoryId) (s.clients v.who)
  | bulkMark status reason => exact h.bulkMark v.list status reason (s.clients v.who)
  | nextPage =>
    unfold Session.screenStep
    cases v.list.nextPage with
    | none => exact h.silent
    | some list => exact h.silent
  | selectPage =>
    unfold Session.screenStep
    cases v.loaded with
    | none => exact h.silent
    | some page => exact h.silent
  | _ => exact h.silent

variable [DecidableEq ι]

theorem step (h : s.world.cache.Agrees ns) (t : Step ι) :
    (s.step t).2.world.cache.Agrees (ns ++ s.notes t) := by
  cases t with
  | read who q => exact h.read q (s.clients who)
  | revalidate who q => exact h.revalidate q (s.clients who)
  | change who x => exact h.change x (s.clients who)
  | dispatch e id => exact h.dispatch e id
  | screen name who t => exact h.screenStep (s.screenOf name who) t
  | poll name =>
    cases hlookup : s.pollers.lookup name with
    | none =>
      simp only [Session.step, Session.notes, hlookup]
      exact h.silent
    | some entry =>
      simp only [Session.step, Session.notes, hlookup]
      exact h.poll entry.2 (s.clients entry.1)
  | run name maxPolls =>
    cases hlookup : s.pollers.lookup name with
    | none =>
      simp only [Session.step, Session.notes, hlookup]
      exact h.silent
    | some entry =>
      simp only [Session.step, Session.notes, hlookup]
      exact h.follow entry.2 (s.clients entry.1) (maxPolls - 1)
  | _ => exact h.silent

theorem run (h : s.world.cache.Agrees ns) (ts : List (Step ι)) :
    (s.run ts).2.world.cache.Agrees (ns ++ s.journal ts) := by
  induction ts generalizing s ns with
  | nil => exact h.silent
  | cons t ts ih =>
    rw [Session.journal, ← List.append_assoc]
    exact ih (h.step t)

end Cache.Agrees

/-! ### Reading -/

section

variable {q : Query} {c : Cache} {ns : List Note}

/-- A standing answer is fresh. -/
theorem Cache.Agrees.fresh?_of_standing (h : c.Agrees ns) (hs : Standing q ns) :
    ∃ a, latest? q ns = some a ∧ q.handle.fresh? c = some (q.shape.kept a) := by
  obtain ⟨a, fetches, hlatest, hback, hentry⟩ := (h q).standing hs
  refine ⟨a, hlatest, ?_⟩
  simp only [Handle.fresh?, Query.handle, hentry, Option.bind_eq_bind, Option.bind_some]
  exact hback

/-- Nothing else is. -/
theorem Cache.Agrees.fresh?_of_not_standing (h : c.Agrees ns) (hs : ¬ Standing q ns) :
    q.handle.fresh? c = none := by
  unfold Handle.fresh?
  cases hentry : c.get? q.handle.key with
  | none => rfl
  | some e =>
    have hstale := (h q).fallen hs e hentry
    simp [hstale]

end

/-- After any run of any clients, a read of a ready client sends no request iff an answer to its
query stands. It is then ready with that answer, which is the last one that was fetched; otherwise
it sends just its own request. -/
theorem Session.sent_read_iff_standing {ι β : Type} [DecidableEq ι] [Backend β]
    (start : Session ι β) (ts : List (Step ι)) (who : ι) (q : Query)
    (hempty : start.world.cache = .empty) (hready : ((start.run ts).2.clients who).ready) :
    let s := (start.run ts).2
    let client := s.clients who
    let (state, after) := q.handle.read client s.world
    (after.sent = s.world.sent ↔ Standing q (start.journal ts)) ∧
    (after.sent = s.world.sent → state.isReady ∧
      ∃ a, latest? q (start.journal ts) = some a ∧ (q.shape.Finite a → state = .ready a)) ∧
    (after.sent ≠ s.world.sent → after.sent = s.world.sent ++ [client.outgoing q.call]) := by
  have hagrees : (start.run ts).2.world.cache.Agrees (start.journal ts) := by
    have hstart : start.world.cache.Agrees [] := hempty ▸ Cache.Agrees.empty
    exact hstart.run ts
  intro s client
  by_cases hs : Standing q (start.journal ts)
  · obtain ⟨a, hlatest, hfresh⟩ := hagrees.fresh?_of_standing hs
    have hread := Handle.read_of_fresh q.handle client s.world hready hfresh
    rw [hread]
    refine ⟨⟨fun _ => hs, fun _ => rfl⟩, fun _ => ⟨rfl, a, hlatest, fun hfinite => ?_⟩,
      fun h => absurd rfl h⟩
    rw [q.shape.kept_of_finite q.shape_isRegular a hfinite]
  · have hfresh := hagrees.fresh?_of_not_standing hs
    have hread := Handle.read_of_not_fresh q.handle client s.world hready hfresh
    have hsent : (q.handle.read client s.world).2.sent =
        s.world.sent ++ [client.outgoing q.call] := by
      rw [hread]
      rfl
    have hne : (q.handle.read client s.world).2.sent ≠ s.world.sent := by
      rw [hsent]
      simp
    exact ⟨⟨fun h => absurd h hne, fun h => absurd h hs⟩, fun h => absurd h hne, fun _ => hsent⟩

/-- What one client has read another need not ask for, though a fix has been approved since. -/
theorem Session.sent_read_of_shared_usage :
    let start : Session Bool Script :=
      ⟨.start (Script.empty.onRaw .get "/api/v1/billing/usage" 200 "\x7b\x7d"),
        fun _ => ⟨"http://localhost", none, true⟩, [], []⟩
    let steps := [.read true .usage, .dispatch .fixApproved (some "7")]
    let s := (start.run steps).2
    start.world.cache = .empty ∧ (s.clients false).ready ∧
      (Query.usage.handle.read (s.clients false) s.world).2.sent = s.world.sent := by
  intro start steps s
  have hstanding : Standing .usage (start.journal steps) := by
    decide +kernel
  have hread := Session.sent_read_iff_standing start steps false .usage rfl rfl
  exact ⟨rfl, rfl, hread.1.2 hstanding⟩

end CodeHealth
