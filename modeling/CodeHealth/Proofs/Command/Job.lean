import CodeHealth.Command.Errand
import Mathlib

/-! Jobs step by step, and the words that they begin with. A word is read before anything is sent:
it stands for a value, or the job ends there and leaves the world as it was. -/

namespace CodeHealth

/-! ### Words -/

namespace Spelling

variable {α : Type} [Spelling α]

/-- The form in which a word is compared. -/
def form (α : Type) [Spelling α] (word : String) : String := (Text.lower word).map (adjust α)

/-- A word stands for a value: it is its name or one of its synonyms. -/
def Stands (word : String) (a : α) : Prop :=
  Label.name a = form α word ∨ (form α word, a) ∈ synonyms

/-- The value of that name or synonym, if there is one. -/
def find? (word : String) : Option α :=
  Label.find? (form α word) <|> synonyms.lookup (form α word)

theorem read_of_find? {word : String} {a : α} (h : find? word = some a) :
    (read word : Except UnknownWord α) = .ok a := by
  unfold find? form at h
  simp only [read, h]

theorem read_of_find?_eq_none {word : String} (h : (find? word : Option α) = none) :
    (read word : Except UnknownWord α) = .error ⟨kind α, form α word, hint α⟩ := by
  unfold find? form at h
  simp only [read, h]
  rfl

/-- A word is read as a value that it stands for, or stands for none. -/
theorem read_cases (α : Type) [Spelling α] (word : String) :
    (∃ a : α, Stands word a ∧ read word = .ok a) ∨
    (∀ a : α, ¬ Stands word a) ∧
      (read word : Except UnknownWord α) = .error ⟨kind α, form α word, hint α⟩ := by
  cases hname : (Label.find? (form α word) : Option α) with
  | some a =>
    refine .inl ⟨a, .inl (by simpa using List.find?_some hname), read_of_find? ?_⟩
    rw [find?, hname]
    rfl
  | none =>
    cases hsynonym : (synonyms : List (String × α)).lookup (form α word) with
    | some a =>
      obtain ⟨before, after, heq, -⟩ := List.lookup_eq_some_iff.1 hsynonym
      refine .inl ⟨a, .inr (by rw [heq]; simp), read_of_find? ?_⟩
      rw [find?, hname, hsynonym]
      rfl
    | none =>
      refine .inr ⟨?_, read_of_find?_eq_none ?_⟩
      · rintro a (ha | ha)
        · exact List.find?_eq_none.1 hname a (Label.mem_all a) (by simpa using ha)
        · simpa using List.lookup_eq_none_iff.1 hsynonym _ ha
      · rw [find?, hname, hsynonym]
        rfl

theorem read_of_name {word : String} {a : α} (h : Label.name a = form α word) :
    (read word : Except UnknownWord α) = .ok a := by
  refine read_of_find? ?_
  rw [find?, ← h, Label.find?_name]
  rfl

end Spelling

/-- What is said about a word that stands for no value of an enumeration. -/
def complaint (α : Type) [Spelling α] (flag word : String) : String :=
  "--" ++ flag ++ ": " ++
    UnknownWord.message ⟨Spelling.kind α, Spelling.form α word, Spelling.hint α⟩

namespace Job

variable {α γ β : Type} {w w' : World β}

theorem bind_of_error {j : Job β α} {k : α → Job β γ} {t : Trouble} (h : j w = (.error t, w')) :
    (j >>= k) w = (.error t, w') := by
  simp only [bind, ExceptT.bind, ExceptT.mk, StateT.bind, h]
  rfl

theorem bind_of_ok {j : Job β α} {k : α → Job β γ} {a : α} (h : j w = (.ok a, w')) :
    (j >>= k) w = k a w' := by
  simp only [bind, ExceptT.bind, ExceptT.mk, StateT.bind, h]
  rfl

section

variable [Spelling α] {flag word : String}

theorem word_of_read {a : α} (h : Spelling.read word = .ok a) :
    (Job.word flag word : Job β α) w = (.ok a, w) := by
  rw [Job.word, h]
  rfl

/-- A word is read, or it is complained about. -/
theorem word_cases (α : Type) [Spelling α] (flag word : String) :
    (∃ a : α, Spelling.Stands word a ∧ ∀ w : World β, Job.word flag word w = (.ok a, w)) ∨
    (∀ a : α, ¬ Spelling.Stands word a) ∧
      ∀ w : World β, (Job.word flag word : Job β α) w =
        (.error (.told (complaint α flag word)), w) := by
  rcases Spelling.read_cases α word with ⟨a, hstands, hread⟩ | ⟨hnone, hread⟩
  · exact .inl ⟨a, hstands, fun w => word_of_read hread⟩
  · refine .inr ⟨hnone, fun w => ?_⟩
    rw [Job.word, hread]
    rfl

theorem word_of_unknown (h : ∀ a : α, ¬ Spelling.Stands word a) :
    (Job.word flag word : Job β α) w = (.error (.told (complaint α flag word)), w) := by
  rcases word_cases (β := β) α flag word with ⟨a, hstands, -⟩ | ⟨-, hread⟩
  · exact absurd hstands (h a)
  · exact hread w

theorem word?_of_unknown {given : Option String} (hword : word ∈ given)
    (h : ∀ a : α, ¬ Spelling.Stands word a) :
    (Job.word? flag given : Job β (Option α)) w = (.error (.told (complaint α flag word)), w) := by
  obtain rfl := hword
  exact bind_of_error (word_of_unknown h)

/-- So is a word that may be missing. -/
theorem word?_cases (α : Type) [Spelling α] (flag : String) (word : Option String) :
    (∃ a : Option α, ∀ w : World β, Job.word? flag word w = (.ok a, w)) ∨
    ∃ s ∈ word, (∀ a : α, ¬ Spelling.Stands s a) ∧
      ∀ w : World β, (Job.word? flag word : Job β (Option α)) w =
        (.error (.told (complaint α flag s)), w) := by
  cases word with
  | none => exact .inl ⟨none, fun w => rfl⟩
  | some s =>
    rcases word_cases (β := β) α flag s with ⟨a, -, hread⟩ | ⟨hnone, hread⟩
    · exact .inl ⟨some a, fun w => by rw [Job.word?, bind_of_ok (hread w)]; rfl⟩
    · exact .inr ⟨s, rfl, hnone, fun w => bind_of_error (hread w)⟩

end

end Job

end CodeHealth
