import CodeHealth.Proofs.Cache.Entries
import CodeHealth.Session.FindingsList
import Mathlib

/-! One exchange with the service. A call is one request, whatever comes of it, and it is the
cache that depends on the outcome: a fetch records it, a change is confirmed by it. -/

namespace CodeHealth

variable {α β : Type} [Backend β]

namespace Client

/-- The request of a call with the address that it goes to. -/
def outgoing (c : Client) (call : Call α) : String × Request :=
  ((c.request call).url c.baseUrl, c.request call)

@[simp] theorem sent_ask (c : Client) (call : Call α) (w : World β) :
    (c.ask call w).2.sent = w.sent ++ [c.outgoing call] := rfl

@[simp] theorem cache_ask (c : Client) (call : Call α) (w : World β) :
    (c.ask call w).2.cache = w.cache := rfl

theorem outcome_ask (c : Client) (call : Call α) (w : World β) :
    ∃ reply, (c.ask call w).1 = call.outcome reply := ⟨_, rfl⟩

end Client

namespace Handle

variable (h : Handle α) (c : Client) (w : World β)

@[simp] theorem sent_fetch : (h.fetch c w).2.sent = w.sent ++ [c.outgoing h.call] := rfl

theorem world_fetch : (h.fetch c w).2 =
    (c.ask h.call w).2.withCache (h.settle w.cache (c.ask h.call w).1).2 := rfl

theorem cache_fetch : (h.fetch c w).2.cache = (h.settle w.cache (c.ask h.call w).1).2 := rfl

/-- A fetch leaves all entries but its own alone. -/
theorem get?_fetch_of_ne {k : Key} (hk : k ≠ h.key) :
    (h.fetch c w).2.cache.get? k = w.cache.get? k := by
  rw [cache_fetch]
  cases (c.ask h.call w).1 with
  | ok a => rw [settle, Cache.get?_storeSuccess, if_neg hk]
  | error f => rw [settle, Cache.get?_storeError, if_neg hk]

theorem read_of_fresh {a : α} (hready : c.ready) (ha : h.fresh? w.cache = some a) :
    h.read c w = (.ready a, w) := by
  simp [read, hready, ha]

theorem read_of_not_fresh (hready : c.ready) (hnone : h.fresh? w.cache = none) :
    h.read c w = h.fetch c w := by
  simp [read, hready, hnone]

/-- A read sends its request unless there is a fresh answer. -/
theorem sent_read (hready : c.ready) : (h.read c w).2.sent =
    if (h.fresh? w.cache).isSome then w.sent else w.sent ++ [c.outgoing h.call] := by
  cases hfresh : h.fresh? w.cache with
  | some a =>
    rw [h.read_of_fresh c w hready hfresh]
    rfl
  | none =>
    rw [h.read_of_not_fresh c w hready hfresh]
    rfl

/-- A read leaves the world alone or fetches. -/
theorem read_eq (h : Handle α) (c : Client) (w : World β) :
    (h.read c w).2 = w ∨ h.read c w = h.fetch c w := by
  unfold read
  split_ifs
  · split
    · exact .inl rfl
    · exact .inr rfl
  · exact .inl rfl

/-- So does a revalidation. -/
theorem revalidate_eq (h : Handle α) (c : Client) (w : World β) :
    (h.revalidate c w).2 = w ∨ h.revalidate c w = h.fetch c w := by
  unfold revalidate
  split_ifs
  · exact .inr rfl
  · exact .inl rfl

end Handle

namespace Mutation

variable (m : Mutation α) (c : Client) (w : World β)

theorem run_of_not_ready (hready : c.ready = false) :
    m.run c w = (.error (.ofCode .sessionNotReady), w) := by
  simp [run, hready]

theorem run_of_error {f : Fault} (hready : c.ready) (hask : (c.ask m.call w).1 = .error f) :
    m.run c w = (.error (explain (.fault f)), (c.ask m.call w).2) := by
  rw [run, if_pos hready, ← Prod.mk.eta (p := c.ask m.call w), hask]

/-- The answer confirms the change. -/
theorem run_of_ok {a : α} (hready : c.ready) (hask : (c.ask m.call w).1 = .ok a) :
    m.run c w = (.ok a, (c.ask m.call w).2.withCache (m.confirm w.cache a)) := by
  rw [run, if_pos hready, ← Prod.mk.eta (p := c.ask m.call w), hask]
  rfl

/-- A change is one request, whatever comes of it. -/
theorem sent_run (hready : c.ready) : (m.run c w).2.sent = w.sent ++ [c.outgoing m.call] := by
  cases hask : (c.ask m.call w).1 with
  | error f => rw [m.run_of_error c w hready hask, Client.sent_ask]
  | ok a => rw [m.run_of_ok c w hready hask, World.withCache, Client.sent_ask]

/-- A change is confirmed with the answer, or leaves the cache alone. -/
theorem run_cases :
    (∃ e, m.run c w = (.error e, w)) ∨
    (∃ e, m.run c w = (.error e, (c.ask m.call w).2)) ∨
    ∃ a, m.run c w = (.ok a, (c.ask m.call w).2.withCache (m.confirm w.cache a)) := by
  by_cases hready : c.ready
  · right
    cases hask : (c.ask m.call w).1 with
    | error f => exact .inl ⟨_, m.run_of_error c w hready hask⟩
    | ok a => exact .inr ⟨a, m.run_of_ok c w hready hask⟩
  · exact .inl ⟨_, m.run_of_not_ready c w (Bool.eq_false_iff.2 hready)⟩

end Mutation

/-- A list of findings asks for nothing while nothing is selected; otherwise its selection is
cleared just when the change is confirmed. -/
theorem FindingsList.bulkMark_cases (l : FindingsList) (status : TriageStatus)
    (reason : Option String) (c : Client) (w : World β) :
    (l.selection = [] ∧ l.bulkMark status reason c w = (.error nothingSelected, l, w)) ∨
    l.selection ≠ [] ∧ ∃ w',
      (∃ e, (Change.triageAll l.selection status reason).mutation.run c w = (.error e, w') ∧
        l.bulkMark status reason c w = (.error e, l, w')) ∨
      ∃ r, (Change.triageAll l.selection status reason).mutation.run c w = (.ok r, w') ∧
        l.bulkMark status reason c w = (.ok r, l.clearSelection, w') := by
  unfold bulkMark
  split_ifs with hempty
  · exact .inl ⟨List.isEmpty_iff.1 hempty, rfl⟩
  · refine .inr ⟨fun h => hempty (List.isEmpty_iff.2 h), ?_⟩
    obtain ⟨outcome, w', hrun⟩ : ∃ outcome w',
        (Change.triageAll l.selection status reason).mutation.run c w = (outcome, w') :=
      ⟨_, _, rfl⟩
    refine ⟨w', ?_⟩
    rw [hrun]
    cases outcome with
    | error e => exact .inl ⟨e, rfl, rfl⟩
    | ok r => exact .inr ⟨r, rfl, rfl⟩

end CodeHealth
