import CodeHealth.Proofs.Json.Flat
import CodeHealth.Service.Change
import Mathlib

/-! Bodies of requests. The body of a change is a record of texts, numbers and lists of texts, and
what the service reads of it is that record with its members in order. -/

namespace CodeHealth

namespace Json

theorem isFlat_texts (ids : List String) : (Change.texts ids).IsFlat := by
  refine ⟨?_, ?_, ?_⟩
  · rw [Change.texts, Legible, legibleItems_iff, List.forall_mem_map]
    exact fun _ _ => trivial
  · have hitems : Tree.values? (spelledItems (ids.map text)) = some (ids.map text) := by
      induction ids with
      | nil => rfl
      | cons id ids ih => simp [spelledItems, spelled, Tree.values?, Tree.value?, ih]
    have hplain : (ids.map text).map plain = ids.map text := by simp [Function.comp_def, plain]
    rw [Change.texts, spelled, Tree.value?, hitems, plain, plainAll_eq_map, hplain, Option.map_some]
  · have hitems : Tree.depthOfItems (spelledItems (ids.map text)) = 0 := by
      induction ids with
      | nil => rfl
      | cons id ids ih => simp [spelledItems, spelled, Tree.depthOfItems, Tree.depth, ih]
    rw [Change.texts, spelled, Tree.depth, hitems]

end Json

theorem Change.isFlat_reasonMember (reason : Option String) :
    ∀ m ∈ reasonMember reason, m.2.IsFlat := by
  cases reason with
  | none => simp [reasonMember]
  | some r => simpa [reasonMember] using Json.isFlat_text r

/-- A change has no body, or a record of flat values. -/
theorem Change.isFlat_body {x : Change} {v : Json} (h : x.body? = some v) :
    ∃ ms, v = .record ms ∧ ∀ m ∈ ms, m.2.IsFlat := by
  have hcons {name : String} {first : Json} {ms : List (String × Json)} (hfirst : first.IsFlat)
      (hms : ∀ m ∈ ms, m.2.IsFlat) : ∀ m ∈ (name, first) :: ms, m.2.IsFlat :=
    List.forall_mem_cons.2 ⟨hfirst, hms⟩
  cases x with
  | triage id status reason =>
    obtain rfl := Option.some.inj h
    exact ⟨_, rfl, hcons (Json.isFlat_text _) (isFlat_reasonMember reason)⟩
  | triageAll ids status reason =>
    obtain rfl := Option.some.inj h
    exact ⟨_, rfl, hcons (Json.isFlat_texts ids)
      (hcons (Json.isFlat_text _) (isFlat_reasonMember reason))⟩
  | reject id reason =>
    obtain rfl := Option.some.inj h
    exact ⟨_, rfl, isFlat_reasonMember reason⟩
  | approveAll ids =>
    obtain rfl := Option.some.inj h
    exact ⟨_, rfl, hcons (Json.isFlat_texts ids) (hcons (Json.isFlat_text _) nofun)⟩
  | rejectAll ids reason =>
    obtain rfl := Option.some.inj h
    exact ⟨_, rfl, hcons (Json.isFlat_texts ids)
      (hcons (Json.isFlat_text _) (isFlat_reasonMember reason))⟩
  | comment id content =>
    obtain rfl := Option.some.inj h
    exact ⟨_, rfl, hcons (Json.isFlat_text content) nofun⟩
  | checkout tier seats =>
    obtain rfl := Option.some.inj h
    exact ⟨_, rfl, hcons (Json.isFlat_text _) (hcons (Json.isFlat_uint32 seats) nofun)⟩
  | connect fullName =>
    obtain rfl := Option.some.inj h
    exact ⟨_, rfl, hcons (Json.isFlat_text fullName) nofun⟩
  | _ => contradiction

/-- What is read of the body of a request is the plain form of what is sent. -/
theorem Change.jsonBody?_request (c : Client) (x : Change) :
    (c.request x.call).jsonBody? = x.body?.map Json.plain := by
  have hrequest : (c.request x.call).jsonBody? = (x.body?.map Json.compact).bind Json.read := rfl
  rw [hrequest]
  cases hbody : x.body? with
  | none => rfl
  | some v =>
    obtain ⟨ms, rfl, hms⟩ := isFlat_body hbody
    exact Json.read_record hms

end CodeHealth
