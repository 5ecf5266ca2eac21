import CodeHealth.Json.Shape
import CodeHealth.Proofs.Json.Kept
import Mathlib

/-! Members that may be missing from a record. Such a member can be read if it is there once at
most, with a value of its type; and a record can be read if all the members that its shape names
can. -/

namespace CodeHealth

open Json (Tree)

variable {ms : List (Option String × Tree)} {name : String} {p : Tree → Prop}

namespace Json

/-- At most one member has that name, and its value is of the given kind. -/
def Sole (name : String) (p : Tree → Prop) (ms : List (Option String × Tree)) : Prop :=
  ∀ m ∈ ms, m.1 = some name → ms.filter (·.1 == some name) = [m] ∧ p m.2

theorem mem_named {m : Option String × Tree} :
    m ∈ ms.filter (·.1 == some name) ↔ m ∈ ms ∧ m.1 = some name := by
  rw [List.mem_filter, beq_iff_eq]

theorem sole_of_none (h : ms.filter (·.1 == some name) = []) : Sole name p ms := by
  intro m hm hname
  have hmem := mem_named.2 ⟨hm, hname⟩
  rw [h] at hmem
  contradiction

theorem sole_iff_of_one {m : Option String × Tree} (h : ms.filter (·.1 == some name) = [m]) :
    Sole name p ms ↔ p m.2 := by
  have hnamed (k : Option String × Tree) : k ∈ ms ∧ k.1 = some name ↔ k = m := by
    rw [← mem_named, h, List.mem_singleton]
  constructor
  · intro hsole
    obtain ⟨hm, hname⟩ := (hnamed m).2 rfl
    exact (hsole m hm hname).2
  · intro hp k hk hname
    obtain rfl := (hnamed k).1 ⟨hk, hname⟩
    exact ⟨h, hp⟩

theorem not_sole_of_many {m k : Option String × Tree} {more : List (Option String × Tree)}
    (h : ms.filter (·.1 == some name) = m :: k :: more) : ¬ Sole name p ms := by
  intro hsole
  have hm : m ∈ ms.filter (·.1 == some name) := h ▸ List.mem_cons_self
  obtain ⟨hm, hname⟩ := mem_named.1 hm
  have hone := (hsole m hm hname).1
  rw [h] at hone
  simp at hone

theorem Sole.congr {q : Tree → Prop} (hpq : ∀ t, p t ↔ q t) : Sole name p ms ↔ Sole name q ms := by
  simp only [Sole, hpq]

end Json

open Json (Sole sole_of_none sole_iff_of_one not_sole_of_many mem_named)

namespace Shape

variable {α β : Type} {s : Shape α} {rest : Fields β}

theorem isSome_pair {x : Option α} {y : Option β} :
    (do some (← x, ← y) : Option (α × β)).isSome ↔ x.isSome ∧ y.isSome := by
  cases x <;> cases y <;> simp

/-- A field that may be missing can be read just when it is there once at most, and as its shape
says. -/
theorem Fields.isSome_decode_cons {a : α} : (Fields.decode (.cons name s (some a) rest) ms).isSome ↔
    Sole name (fun t => (s.decode t).isSome) ms ∧ (Fields.decode rest ms).isSome := by
  rw [Fields.decode]
  cases hnamed : ms.filter (·.1 == some name) with
  | nil =>
    rw [isSome_pair, and_iff_right (sole_of_none hnamed)]
    exact and_iff_right rfl
  | cons m more =>
    cases more with
    | nil => rw [isSome_pair, sole_iff_of_one hnamed]
    | cons k more => simp [not_sole_of_many hnamed]

/-- What is read for a field is what its member says. -/
theorem Fields.decode_of_mem {absent : Option α} {v : α × β} {t : Tree}
    (h : Fields.decode (.cons name s absent rest) ms = some v) (hmem : (some name, t) ∈ ms) :
    s.decode t = some v.1 := by
  have hnamed := mem_named.2 ⟨hmem, rfl⟩
  rw [Fields.decode] at h
  split at h
  next hnone =>
    rw [hnone] at hnamed
    contradiction
  next m hone =>
    obtain rfl := List.mem_singleton.1 (hone ▸ hnamed)
    exact (pair_eq_some h).1
  next => contradiction

theorem Fields.decode_rest {absent : Option α} {v : α × β}
    (h : Fields.decode (.cons name s absent rest) ms = some v) :
    Fields.decode rest ms = some v.2 := by
  rw [Fields.decode] at h
  split at h
  · exact (pair_eq_some h).2
  · exact (pair_eq_some h).2
  · contradiction

theorem decode_record_eq_some_iff {fields : Fields β} {view : View α β} {a : α} :
    (Shape.record fields view).decode (.record ms) = some a ↔
      (∀ m ∈ ms, m.1.isSome) ∧ Fields.decode fields ms = some (view.fields a) := by
  have hview (v : β) : view.make v = a ↔ v = view.fields a := by
    constructor
    · rintro rfl
      exact (view.fields_make v).symm
    · rintro rfl
      exact view.make_fields a
  rw [decode, Option.ite_none_right_eq_some, List.all_eq_true, Option.map_eq_some_iff]
  simp only [hview, exists_eq_right]

end Shape

end CodeHealth
