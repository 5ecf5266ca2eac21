import CodeHealth.Proofs.Json.Members
import CodeHealth.Proofs.Json.Spelled
import Mathlib

/-! Flat values: scalars, and records and lists of them. What is read of such a record or list is its
plain form, whatever the texts in it hold. -/

namespace CodeHealth.Json

/-- A value that is read as its plain form, with no lists or records in its items. -/
structure IsFlat (v : Json) : Prop where
  legible : v.Legible
  value : v.spelled.value? = some v.plain
  depth : v.spelled.depth ≤ 1

theorem isFlat_null : null.IsFlat := ⟨trivial, rfl, zero_le_one⟩

theorem isFlat_bool (b : Bool) : (bool b).IsFlat := ⟨trivial, rfl, zero_le_one⟩

theorem isFlat_text (s : String) : (text s).IsFlat := ⟨trivial, rfl, zero_le_one⟩

theorem isFlat_uint32 (n : UInt32) : (whole n.toNat).IsFlat := by
  have := n.toNat_lt
  exact ⟨⟨by omega, by omega⟩, rfl, zero_le_one⟩

theorem isFlat_uint64 (n : UInt64) : (whole n.toNat).IsFlat := by
  have := n.toNat_lt
  exact ⟨⟨by omega, by omega⟩, rfl, zero_le_one⟩

theorem isFlat_int64 (i : Int64) : (whole i.toInt).IsFlat := by
  have hlow := i.le_toInt
  have hhigh := i.toInt_lt
  exact ⟨⟨by omega, by omega⟩, rfl, zero_le_one⟩

/-- A legible value of little depth is read as the plain value that its tree denotes. -/
theorem read_compact_of_value {v : Json} (hlegible : v.Legible)
    (hdepth : v.spelled.depth ≤ Tree.nestingLimit) : read v.compact = v.spelled.value? := by
  rw [read, read_compact hlegible, Option.bind_eq_bind, Option.bind_some, Tree.plain?,
    if_pos hdepth]

/-- So it is when it is laid out over lines. -/
theorem read_pretty_of_value {v : Json} (hlegible : v.Legible)
    (hdepth : v.spelled.depth ≤ Tree.nestingLimit) : read v.pretty = v.spelled.value? := by
  rw [read, read_pretty hlegible, Option.bind_eq_bind, Option.bind_some, Tree.plain?,
    if_pos hdepth]

/-- A record of values that are read as their plain form is read so itself. -/
theorem value?_record {ms : List (String × Json)} {d : ℕ} (h : ∀ m ∈ ms,
    m.2.Legible ∧ m.2.spelled.value? = some m.2.plain ∧ m.2.spelled.depth ≤ d) :
    (record ms).Legible ∧ (record ms).spelled.value? = some (record ms).plain ∧
      (record ms).spelled.depth ≤ d + 1 := by
  have hmembers : LegibleMembers ms ∧ Tree.members? (spelledMembers ms) = some (plainMembers ms) ∧
      Tree.depthOfMembers (spelledMembers ms) ≤ d := by
    induction ms with
    | nil => exact ⟨trivial, rfl, Nat.zero_le d⟩
    | cons m ms ih =>
      obtain ⟨⟨hfirst, hvalue, hshallow⟩, hrest⟩ := List.forall_mem_cons.1 h
      obtain ⟨hlegible, hvalues, hdepth⟩ := ih hrest
      refine ⟨⟨hfirst, hlegible⟩, ?_, max_le hshallow hdepth⟩
      simp [spelledMembers, plainMembers, Tree.members?, hvalue, hvalues]
  obtain ⟨hlegible, hvalues, hdepth⟩ := hmembers
  refine ⟨hlegible, ?_, Nat.succ_le_succ hdepth⟩
  rw [spelled, Tree.value?, hvalues, Option.map_some, plain]

/-- A record of flat values is read as its plain form. -/
theorem read_record {ms : List (String × Json)} (h : ∀ m ∈ ms, m.2.IsFlat) :
    read (record ms).compact = some (record ms).plain := by
  obtain ⟨hlegible, hvalue, hdepth⟩ :=
    value?_record (d := 1) fun m hm => ⟨(h m hm).legible, (h m hm).value, (h m hm).depth⟩
  rw [read_compact_of_value hlegible (hdepth.trans (by decide)), hvalue]

/-- A list of flat values is read as its plain form. -/
theorem read_list {xs : List Json} (h : ∀ x ∈ xs, x.IsFlat) :
    read (list xs).compact = some (list xs).plain := by
  have hitems : LegibleItems xs ∧ Tree.values? (spelledItems xs) = some (plainAll xs) ∧
      Tree.depthOfItems (spelledItems xs) ≤ 1 := by
    induction xs with
    | nil => exact ⟨trivial, rfl, zero_le_one⟩
    | cons x xs ih =>
      obtain ⟨hfirst, hrest⟩ := List.forall_mem_cons.1 h
      obtain ⟨hlegible, hvalues, hdepth⟩ := ih hrest
      refine ⟨⟨hfirst.legible, hlegible⟩, ?_, max_le hfirst.depth hdepth⟩
      simp [spelledItems, plainAll, Tree.values?, hfirst.value, hvalues]
  obtain ⟨hlegible, hvalues, hdepth⟩ := hitems
  have hlist : (list xs).Legible := hlegible
  have hshallow : (list xs).spelled.depth ≤ Tree.nestingLimit :=
    (Nat.succ_le_succ hdepth).trans (by decide)
  rw [read_compact_of_value hlist hshallow, spelled, Tree.value?, hvalues, Option.map_some, plain]

end CodeHealth.Json
