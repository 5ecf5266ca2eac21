import CodeHealth.Proofs.Cache.Entries
import CodeHealth.Proofs.Json.Kept
import CodeHealth.Proofs.Session.Exchange
import Mathlib

/-! Changes are all or nothing on the side of the client. Only an answer that could be read reaches
the cache, and then it does all that the event of the change asks for; every failure, wherever it
occurs, leaves the cache and the selection as they were. -/

namespace CodeHealth

/-! ### Trial runs -/

/-- There are no binary numbers in a preview. -/
theorem Preview.finite (p : Preview) : Preview.shape.Finite p := by
  simp [Preview.shape, PreviewCheck.shape, Shape.Finite, Shape.Fields.Finite, Shape.uint64]

theorem Preview.ofJson_toPlain (p : Preview) :
    Preview.shape.ofJson (Preview.shape.toPlain p) = some p :=
  Shape.ofJson_toPlain_of_finite rfl p.finite

/-- A preview that has just been stored is fresh, and is found again. -/
theorem keptPreview_storeSuccess (c : Cache) (id : String) (p : Preview) :
    (c.storeSuccess (.fixPreview id) (Preview.shape.toPlain p)).isFresh (.fixPreview id) ∧
      keptPreview (c.storeSuccess (.fixPreview id) (Preview.shape.toPlain p)) id = .ready p := by
  have hget := Cache.get?_storeSuccess c (.fixPreview id) (.fixPreview id) (Preview.shape.toPlain p)
  rw [if_pos rfl] at hget
  constructor
  · rw [Cache.isFresh, hget]
    rfl
  · simp only [keptPreview, hget, Option.bind_some, p.ofJson_toPlain]

/-! ### All changes -/

/-- What a confirmed change makes of the cache: its event is dispatched, and nothing else happens,
save that the outcome of a trial run is kept. -/
def Change.Confirmed (before after : Cache) : (x : Change) → x.Answer → Prop
  | .preview id, p =>
    (∀ k, k ≠ .fixPreview id → after.get? k = (before.dispatch .fixPreviewed (some id)).1.get? k) ∧
      after.isFresh (.fixPreview id) ∧ keptPreview after id = .ready p
  | x, _ => after = (before.dispatch x.event x.entity?).1

theorem Change.confirmed_confirm (x : Change) (c : Cache) (a : x.Answer) :
    x.Confirmed c (x.mutation.confirm c a) a := by
  cases x with
  | preview id =>
    have hkept := keptPreview_storeSuccess (c.dispatch .fixPreviewed (some id)).1 id a
    refine ⟨fun k hk => ?_, hkept⟩
    exact (Cache.get?_storeSuccess _ _ k _).trans (if_neg hk)
  | _ => rfl

variable {β : Type}

/-- How a change may end: at most one request has been sent, an error has left the cache alone, and
an answer has been asked for and confirms the change. -/
def Change.AllOrNothing (x : Change) (c : Client) (before : World β)
    (result : Except Explanation x.Answer) (after : World β) : Prop :=
  (after.sent = before.sent ∨ after.sent = before.sent ++ [c.outgoing x.call]) ∧
    match result with
    | .error _ => after.cache = before.cache
    | .ok a =>
      after.sent = before.sent ++ [c.outgoing x.call] ∧ x.Confirmed before.cache after.cache a

variable [Backend β]

theorem Change.allOrNothing_run (x : Change) (c : Client) (w : World β) :
    x.AllOrNothing c w (x.mutation.run c w).1 (x.mutation.run c w).2 := by
  rcases x.mutation.run_cases c w with ⟨e, heq⟩ | ⟨e, heq⟩ | ⟨a, heq⟩
  · rw [heq]
    exact ⟨.inl rfl, rfl⟩
  · rw [heq]
    exact ⟨.inr rfl, rfl⟩
  · rw [heq]
    exact ⟨.inr rfl, rfl, x.confirmed_confirm w.cache a⟩

/-- Every change is all or nothing, whatever its arguments, the cache and the reply are; and so is
the triage of all that is selected, which clears the selection just when it succeeds. -/
theorem changes_all_or_nothing (c : Client) (w : World β) :
    (∀ x : Change, x.AllOrNothing c w (x.mutation.run c w).1 (x.mutation.run c w).2) ∧
    ∀ (l : FindingsList) (status : TriageStatus) (reason : Option String),
      let (result, l', after) := l.bulkMark status reason c w
      (Change.triageAll l.selection status reason).AllOrNothing c w result after ∧
        match result with
        | .error _ => l' = l
        | .ok _ => l'.selection = [] := by
  refine ⟨fun x => x.allOrNothing_run c w, fun l status reason => ?_⟩
  have hspec := (Change.triageAll l.selection status reason).allOrNothing_run c w
  rcases l.bulkMark_cases status reason c w with
    ⟨-, heq⟩ | ⟨-, w', ⟨e, hrun, heq⟩ | ⟨r, hrun, heq⟩⟩
  · rw [heq]
    exact ⟨⟨.inl rfl, rfl⟩, rfl⟩
  · rw [hrun] at hspec
    rw [heq]
    exact ⟨hspec, rfl⟩
  · rw [hrun] at hspec
    rw [heq]
    exact ⟨hspec, rfl⟩

end CodeHealth
