import CodeHealth.Proofs.Json.Kept
import CodeHealth.Service.Query
import Mathlib

/-! Queries as they are kept. A key says which query it belongs to, filters and page included, so
an answer found under a key is an answer to that very query; and every answer that was read from a
reply comes back from the cache. -/

namespace CodeHealth

/-- A call succeeds with what a response of success says. -/
theorem Call.outcome_eq_ok_iff {α : Type} {call : Call α} {reply : Reply} {a : α} :
    call.outcome reply = .ok a ↔
      ∃ r, reply = .ok r ∧ r.isSuccess ∧ call.answer.read (bodyText r.body) = some a := by
  constructor
  · intro h
    cases reply with
    | error f => cases h
    | ok r =>
      simp only [outcome] at h
      split at h
      · rename_i hsuccess
        split at h
        · rename_i b hread
          obtain rfl := Except.ok.inj h
          exact ⟨r, rfl, hsuccess, hread⟩
        · cases h
      · cases h
  · rintro ⟨r, rfl, hsuccess, hread⟩
    simp [outcome, hsuccess, hread]

/-- An answer has been read from a text. -/
theorem Call.read_of_outcome {α : Type} {call : Call α} {reply : Reply} {a : α}
    (h : call.outcome reply = .ok a) : ∃ text, call.answer.read text = some a := by
  obtain ⟨r, -, -, hread⟩ := Call.outcome_eq_ok_iff.1 h
  exact ⟨bodyText r.body, hread⟩

namespace KeyPart

theorem ofText?_injective : Function.Injective ofText? := by
  intro s t h
  cases s <;> cases t <;> simp_all [ofText?]

theorem ofUInt32_injective : Function.Injective ofUInt32 := by
  intro m n h
  have h := congrArg Int64.toInt (KeyPart.number.inj h)
  rw [Int64.toInt_ofNat_of_lt (by have := m.toNat_lt; omega),
    Int64.toInt_ofNat_of_lt (by have := n.toNat_lt; omega)] at h
  exact UInt32.toNat_inj.1 (Int.ofNat_inj.1 h)

end KeyPart

namespace Query

open KeyPart (ofText? ofUInt32 ofText?_injective ofUInt32_injective)

theorem name_injective {α : Type} [Label α] : Function.Injective (Label.name : α → String) :=
  Label.name_injective

theorem mapName_injective {α : Type} [Label α] :
    Function.Injective (Option.map (Label.name : α → String)) :=
  Option.map_injective name_injective

theorem listParts_injective : Function.Injective listParts := by
  rintro ⟨page, size, field, direction⟩ ⟨page', size', field', direction'⟩ h
  simp only [listParts, List.cons.injEq, ofUInt32_injective.eq_iff, ofText?_injective.eq_iff,
    KeyPart.text.injEq, name_injective.eq_iff, and_true] at h
  obtain ⟨rfl, rfl, rfl, rfl⟩ := h
  rfl

theorem findingParts_injective : Function.Injective findingParts := by
  rintro ⟨a, b, c, d, e, f, g⟩ ⟨a', b', c', d', e', f', g'⟩ h
  simp only [findingParts, List.cons.injEq, ofText?_injective.eq_iff, mapName_injective.eq_iff,
    and_true] at h
  obtain ⟨rfl, rfl, rfl, rfl, rfl, rfl, rfl⟩ := h
  rfl

theorem fixParts_injective : Function.Injective fixParts := by
  rintro ⟨a, b, c, d, e⟩ ⟨a', b', c', d', e'⟩ h
  simp only [fixParts, List.cons.injEq, ofText?_injective.eq_iff, mapName_injective.eq_iff,
    and_true] at h
  obtain ⟨rfl, rfl, rfl, rfl, rfl⟩ := h
  rfl

theorem assetParts_injective : Function.Injective assetParts := by
  rintro ⟨a, b, c⟩ ⟨a', b', c'⟩ h
  simp only [assetParts, List.cons.injEq, ofText?_injective.eq_iff, mapName_injective.eq_iff,
    KeyPart.flag.injEq, and_true] at h
  obtain ⟨rfl, rfl, rfl⟩ := h
  rfl

/-- No two queries have a key in common. -/
theorem key_injective : Function.Injective key := by
  intro q r h
  have hfamily := congrArg Key.family h
  have hparts := congrArg Key.parts h
  cases q <;> cases r <;> cases hfamily
  all_goals
    simp only [key, Key.finding, Key.fix, Key.fixComments, Key.repository, Key.analysisStatus,
      Key.head, List.cons.injEq, KeyPart.text.injEq, ofText?_injective.eq_iff,
      ofUInt32_injective.eq_iff, name_injective.eq_iff, and_true] at hparts
  case findings.findings =>
    obtain ⟨hfilters, hpage⟩ := List.append_inj hparts rfl
    rw [findingParts_injective hfilters, listParts_injective hpage]
  case fixes.fixes =>
    obtain ⟨hfilters, hpage⟩ := List.append_inj hparts rfl
    rw [fixParts_injective hfilters, listParts_injective hpage]
  case assets.assets =>
    obtain ⟨hfilters, hpage⟩ := List.append_inj hparts rfl
    rw [assetParts_injective hfilters, listParts_injective hpage]
  case runHistory.runHistory =>
    rw [hparts.1, listParts_injective hparts.2]
  case repositories.repositories => rw [listParts_injective hparts]
  case invoices.invoices => rw [listParts_injective hparts]
  case findingsByDetector.findingsByDetector => rw [hparts.1, hparts.2]
  case trends.trends => rw [hparts.1, hparts.2]
  -- all other keys have at most one part
  all_goals first | rfl | rw [hparts]

/-- Trial runs of fixes are kept apart from all answers to queries. -/
theorem key_ne_fixPreview (q : Query) (id : String) : q.key ≠ .fixPreview id := by
  intro h
  have hfamily := congrArg Key.family h
  cases q <;> cases hfamily

/-- Each kind of query has a family of its own. -/
theorem family_eq_iff (q r : Query) : q.key.family = r.key.family ↔ q.ctorIdx = r.ctorIdx := by
  cases q <;> cases r <;> simp [key, Query.ctorIdx, Key.finding, Key.fix, Key.fixComments,
    Key.repository, Key.analysisStatus, Key.head]

/-- A key determines the request: queries with one key are of one kind, their answers are of one
type and are read alike, and any client sends the same request for both. No two kinds of query
share a family, and no text that is given looks in a key like one that is not. -/
theorem request_determined_by_key :
    (∀ q r : Query, q.key = r.key → q = r ∧ q.ctorIdx = r.ctorIdx ∧ q.Answer = r.Answer ∧
      HEq q.shape r.shape ∧ q.call.method = r.call.method ∧ q.call.path = r.call.path ∧
      q.call.query = r.call.query ∧ ∀ c : Client, c.request q.call = c.request r.call) ∧
    (∀ q r : Query, q.key.family = r.key.family ↔ q.ctorIdx = r.ctorIdx) ∧
    ∀ s : String, ofText? none ≠ ofText? (some s) := by
  refine ⟨fun q r hkey => ?_, family_eq_iff, fun s hs => ?_⟩
  · obtain rfl := key_injective hkey
    exact ⟨rfl, rfl, rfl, .rfl, rfl, rfl, rfl, fun _ => rfl⟩
  · cases ofText?_injective hs

/-- Page one is the page by default; but a search for the empty text is not the lack of a search. -/
theorem default_page_determined :
    (repositories { page := 1 }).key = (repositories {}).key ∧
    (∀ c : Client, c.request (repositories { page := 1 }).call =
      c.request (repositories {}).call) ∧
    (findings { search := some "" } {}).key ≠ (findings {} {}).key := by
  obtain ⟨hdetermined, -, -⟩ := request_determined_by_key
  have hpage : (repositories { page := 1 }).key = (repositories {}).key := rfl
  obtain ⟨-, -, -, -, -, -, -, hrequest⟩ := hdetermined _ _ hpage
  refine ⟨hpage, hrequest, fun hkey => ?_⟩
  obtain ⟨hsame, -⟩ := hdetermined _ _ hkey
  revert hsame
  decide

/-! ### Answers -/

theorem shape_isRegular (q : Query) : q.shape.isRegular := by
  cases q <;> rfl

theorem shape_isReal32 (q : Query) : q.shape.isReal32 = false := by
  cases q <;> rfl

/-- What a reply said comes back from the cache. -/
theorem ofJson_toPlain_of_outcome {q : Query} {reply : Reply} {a : q.Answer}
    (h : q.call.outcome reply = .ok a) :
    q.shape.ofJson (q.shape.toPlain a) = some (q.shape.kept a) := by
  obtain ⟨text, htext⟩ := Call.read_of_outcome h
  exact Shape.ofJson_toPlain_of_read q.shape_isRegular q.shape_isReal32 htext

end Query

end CodeHealth
