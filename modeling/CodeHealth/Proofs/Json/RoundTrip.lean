import CodeHealth.Json.Shape
import CodeHealth.Proofs.Json.Kept
import CodeHealth.Proofs.Json.Numerals
import Mathlib

/-! Values come back from their texts. A shape describes both directions of the way, so what a value
is written as, compact or over several lines, is read as the same value, provided that this holds
of each binary number in it. -/

namespace CodeHealth

open Number
open Json (Tree IsNumber)

/-! ### Binary numbers -/

/-- The number is read back from its own text. -/
def Binary64.ReadsBack (x : Binary64) : Prop := Shape.real.read (Json.real x).compact = some x

def Binary32.ReadsBack (x : Binary32) : Prop := Shape.real32.read (Json.real32 x).compact = some x

instance (x : Binary64) : Decidable x.ReadsBack :=
  inferInstanceAs (Decidable (Shape.real.read (Json.real x).compact = some x))

instance (x : Binary32) : Decidable x.ReadsBack :=
  inferInstanceAs (Decidable (Shape.real32.read (Json.real32 x).compact = some x))

/-- If the text of a number is read as a number at all, the number is finite. -/
theorem Json.isNumber_of_scalar {f : Format} {style : PointRange} {r : Reading} {t : Tree}
    {n : Scalar} (ht : Tree.read (String.ofList ((write? f style r).getD nullText)) = some t)
    (hn : Shape.scalar? t = some n) :
    IsNumber ((write? f style r).getD nullText) ∧ ∃ negative m q, r = .finite negative m q := by
  cases hwrite : write? f style r with
  | none =>
    rw [hwrite] at ht
    cases ht
    contradiction
  | some cs =>
    have hfinite : ∃ negative m q, r = .finite negative m q := by
      cases r with
      | finite negative m q => exact ⟨negative, m, q, rfl⟩
      | infinite => contradiction
      | notANumber => contradiction
    rw [hwrite] at ht
    cases t with
    | number x => exact ⟨isNumber_of_read (all_write? hwrite) ht, hfinite⟩
    | _ => contradiction

theorem Binary64.ReadsBack.spelled {x : Binary64} (h : x.ReadsBack) : x.isFinite ∧
    (Json.real x).Legible ∧ Shape.real.decode (Json.real x).spelled = some x := by
  obtain ⟨t, ht, hdecode⟩ := Option.bind_eq_some_iff.1 h
  obtain ⟨n, hn, -⟩ := Option.map_eq_some_iff.1 hdecode
  obtain ⟨hnumber, hfinite⟩ := Json.isNumber_of_scalar ht hn
  have hlegible : (Json.real x).Legible := hnumber
  obtain rfl := Option.some.inj (ht.symm.trans (Json.read_compact hlegible))
  exact ⟨(isFinite_iff x).2 hfinite, hlegible, hdecode⟩

theorem Binary32.ReadsBack.spelled {x : Binary32} (h : x.ReadsBack) : x.isFinite ∧
    (Json.real32 x).Legible ∧ Shape.real32.decode (Json.real32 x).spelled = some x := by
  obtain ⟨t, ht, hdecode⟩ := Option.bind_eq_some_iff.1 h
  obtain ⟨n, hn, -⟩ := Option.map_eq_some_iff.1 hdecode
  obtain ⟨hnumber, hfinite⟩ := Json.isNumber_of_scalar ht hn
  have hlegible : (Json.real32 x).Legible := hnumber
  obtain rfl := Option.some.inj (ht.symm.trans (Json.read_compact hlegible))
  exact ⟨(isFinite_iff x).2 hfinite, hlegible, hdecode⟩

namespace Shape

/-! ### Values and shapes -/

mutual
/-- All binary numbers in the value are read back from their texts. -/
def ReadsBack {α : Type} : Shape α → α → Prop
  | .real, x => x.ReadsBack
  | .real32, x => x.ReadsBack
  | .option s, v => ∀ a ∈ v, s.ReadsBack a
  | .list s, xs => ∀ a ∈ xs, s.ReadsBack a
  | .record fields view, a => Fields.ReadsBack fields (view.fields a)
  | _, _ => True
def Fields.ReadsBack {β : Type} : Fields β → β → Prop
  | .nil, _ => True
  | .cons _ s _ rest, v => s.ReadsBack v.1 ∧ Fields.ReadsBack rest v.2
end

mutual
/-- Whole numbers of this shape fit 64 bits, with or without a sign. -/
def FitsWord {α : Type} : Shape α → Prop
  | .whole range => ∀ a, -2 ^ 63 ≤ range.toInt a ∧ range.toInt a < 2 ^ 64
  | .option s => s.FitsWord
  | .list s => s.FitsWord
  | .record fields _ => Fields.FitsWord fields
  | _ => True
def Fields.FitsWord {β : Type} : Fields β → Prop
  | .nil => True
  | .cons _ s _ rest => s.FitsWord ∧ Fields.FitsWord rest
end

/-- Only shapes that say so are read from null. -/
theorem decode_null {α : Type} {s : Shape α} (hs : s.hasNull = false) : s.decode .null = none := by
  cases s <;> first | contradiction | rfl

theorem decode_option {α : Type} {s : Shape α} (hs : s.hasNull = false) {t : Json.Tree} {a : α}
    (h : s.decode t = some a) : (Shape.option s).decode t = some (some a) := by
  have ht : t ≠ .null := by
    rintro rfl
    rw [decode_null hs] at h
    contradiction
  rw [decode, h]
  · rfl
  · exact ht

theorem Fields.names_encode {β : Type} : (fields : Fields β) → (v : β) →
    (Fields.encode fields v).map Prod.fst = Fields.names fields
  | .nil, _ => rfl
  | .cons name s absent rest, v => by
    rw [Fields.encode, List.map_cons, Fields.names_encode rest v.2, Fields.names]

/-! ### Coming back -/

mutual
/-- The text of a value can be read, and what is read is the value. -/
theorem decode_spelled {α : Type} : (s : Shape α) → s.isRegular → s.FitsWord → (a : α) →
    s.ReadsBack a → (s.encode a).Legible ∧ s.decode (s.encode a).spelled = some a
  | .unit, _, _, _, _ => ⟨trivial, rfl⟩
  | .flag, _, _, _, _ => ⟨trivial, rfl⟩
  | .text, _, _, _, _ => ⟨trivial, rfl⟩
  | .whole range, _, hword, a, _ => ⟨hword a, range.ofInt?_toInt a⟩
  | .real, _, _, x, h => by
    obtain ⟨hfinite, hspelled⟩ := Binary64.ReadsBack.spelled h
    rw [encode, if_pos hfinite]
    exact hspelled
  | .real32, _, _, x, h => by
    obtain ⟨hfinite, hspelled⟩ := Binary32.ReadsBack.spelled h
    rw [encode, if_pos hfinite]
    exact hspelled
  | .instant, _, _, t, _ => by
    have hdecode : Shape.instant.decode (Shape.instant.encode t).spelled = some t := by
      simp [encode, Json.spelled, decode, Instant.read_write t]
    exact ⟨trivial, hdecode⟩
  | .choice label, _, _, a, _ => ⟨trivial, label.find?_name a⟩
  | .option s, _, _, none, _ => ⟨trivial, rfl⟩
  | .option s, hs, hword, some a, h => by
    obtain ⟨hnull, hs⟩ := (isRegular_option s).1 hs
    obtain ⟨hlegible, hdecode⟩ := decode_spelled s hs hword a (h a rfl)
    exact ⟨hlegible, decode_option hnull hdecode⟩
  | .list s, hs, hword, xs, h => by
    obtain ⟨-, hs⟩ := (isRegular_list s).1 hs
    have hitem : ∀ a ∈ xs, (s.encode a).Legible ∧ s.decode (s.encode a).spelled = some a :=
      fun a ha => decode_spelled s hs hword a (h a ha)
    constructor
    · rw [encode, Json.Legible, Json.legibleItems_iff, List.forall_mem_map]
      exact fun a ha => (hitem a ha).1
    · rw [encode, Json.spelled, Json.spelledItems_eq_map, List.map_map, decode]
      have hback := mapM_map_of_forall (k := id) fun a ha => (hitem a ha).2
      exact hback.trans (congrArg some xs.map_id)
  | .record fields view, hs, hword, a, h => by
    obtain ⟨hnames, hfields⟩ := (isRegular_record fields view).1 hs
    obtain ⟨hlegible, hdecode⟩ := Fields.decode_spelled fields hfields hword (view.fields a) h
    have hnodup := Fields.names_encode fields (view.fields a) ▸ hnames
    refine ⟨hlegible, ?_⟩
    have hall : (Json.spelledMembers (Fields.encode fields (view.fields a))).all (·.1.isSome) := by
      simp [Json.spelledMembers_eq_map]
    rw [encode, Json.spelled, decode, if_pos hall,
      hdecode _ fun m hm => Json.filter_spelledMembers hnodup hm, Option.map_some, view.make_fields]
theorem Fields.decode_spelled {β : Type} : (fields : Fields β) → Fields.isRegular fields →
    Fields.FitsWord fields → (v : β) → Fields.ReadsBack fields v →
    Json.LegibleMembers (Fields.encode fields v) ∧ ∀ ms : List (Option String × Json.Tree),
      (∀ m ∈ Fields.encode fields v, ms.filter (·.1 == some m.1) = [(some m.1, m.2.spelled)]) →
      Fields.decode fields ms = some v
  | .nil, _, _, _, _ => ⟨trivial, fun _ _ => rfl⟩
  | .cons name s absent rest, hs, hword, v, h => by
    obtain ⟨⟨-, hs⟩, -, hregular⟩ := (Fields.isRegular_cons name s absent rest).1 hs
    obtain ⟨hlegible, hfirst⟩ := decode_spelled s hs hword.1 v.1 h.1
    obtain ⟨hlegibles, hrest⟩ := Fields.decode_spelled rest hregular hword.2 v.2 h.2
    refine ⟨⟨hlegible, hlegibles⟩, fun ms hms => ?_⟩
    obtain ⟨hname, hnames⟩ := List.forall_mem_cons.1 hms
    simp only [Fields.decode, hname, hfirst, hrest ms hnames, Option.bind_eq_bind, Option.bind_some]
end

/-- A value comes back from its compact text and from the one over several lines. -/
theorem read_encode {α : Type} {s : Shape α} (hs : s.isRegular) (hword : s.FitsWord) {a : α}
    (h : s.ReadsBack a) :
    s.read (s.encode a).compact = some a ∧ s.read (s.encode a).pretty = some a := by
  obtain ⟨hlegible, hdecode⟩ := decode_spelled s hs hword a h
  constructor
  · rw [read, Json.read_compact hlegible]
    exact hdecode
  · rw [read, Json.read_pretty hlegible]
    exact hdecode

end Shape

end CodeHealth
