import CodeHealth.Proofs.Settings.Change
import Mathlib

/-! The settings in force: those of the file at home under those of the environment. -/

namespace CodeHealth.Settings

variable {home : Home} {env : Environment} {t : Settings}

/-- The settings of the file at home; none where there is no place or no file for them. -/
def Filed (home : Home) (s : Settings) : Prop :=
  match home.settings with
  | some place => Before place s
  | none => s = {}

theorem load_eq_ok_iff {place : Place} :
    load place.path place.file env = .ok t ↔ ∃ s, Before place s ∧ t = s.overlay env := by
  unfold load Before
  split_ifs with hthere
  · rw [bind_eq_ok]
    refine exists_congr fun s => and_congr_right fun _ => ?_
    rw [Except.ok.injEq, eq_comm]
  · constructor
    · intro h
      exact ⟨{}, rfl, (Except.ok.inj h).symm⟩
    · rintro ⟨s, rfl, rfl⟩
      rfl

theorem inForce_eq_ok_iff : inForce home env = .ok t ↔ ∃ s, Filed home s ∧ t = s.overlay env := by
  unfold inForce Filed
  cases home.settings with
  | none => simp [eq_comm]
  | some place => exact load_eq_ok_iff

/-- An empty variable gives nothing. -/
theorem given_eq (env : Environment) (name : String) :
    given env name = (env.lookup name).filter (· ≠ "") := by
  unfold given
  congr 1
  funext v
  by_cases hv : v = ""
  · simp [hv]
  · simp [hv]

end CodeHealth.Settings
