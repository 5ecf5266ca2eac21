import CodeHealth.Text.Casing
import CodeHealth.Text.Word
import Mathlib

/-! Simple case folding. Two letters are equal up to case just when they fold to one letter; most
fold to their lower case. For the lower-case letters of ASCII and the space, this is the comparison
by `fold`. -/

namespace CodeHealth.Text

namespace Casing

/-- Characters that fold to another one than their lower case. -/
def foldRuns : List Run := [
  ⟨181, 181, 1, 775⟩, ⟨383, 383, 1, -268⟩, ⟨837, 837, 1, 116⟩, ⟨962, 962, 1, 1⟩,
  ⟨976, 976, 1, -30⟩, ⟨977, 977, 1, -25⟩, ⟨981, 981, 1, -15⟩, ⟨982, 982, 1, -22⟩,
  ⟨1008, 1008, 1, -54⟩, ⟨1009, 1009, 1, -48⟩, ⟨1013, 1013, 1, -64⟩, ⟨5024, 5109, 1, 0⟩,
  ⟨5112, 5117, 1, -8⟩, ⟨7296, 7296, 1, -6222⟩, ⟨7297, 7297, 1, -6221⟩, ⟨7298, 7298, 1, -6212⟩,
  ⟨7299, 7300, 1, -6210⟩, ⟨7301, 7301, 1, -6211⟩, ⟨7302, 7302, 1, -6204⟩, ⟨7303, 7303, 1, -6180⟩,
  ⟨7304, 7304, 1, 35267⟩, ⟨7835, 7835, 1, -58⟩, ⟨8126, 8126, 1, -7173⟩, ⟨8147, 8147, 1, -7235⟩,
  ⟨8163, 8163, 1, -7219⟩, ⟨43888, 43967, 1, -38864⟩, ⟨64261, 64261, 1, 1⟩]

/-- The runs that reach into ASCII: the capital letters, which stay in it, and the long s and the
kelvin sign, which are moved into it. -/
theorem first_of_mem : ∀ r ∈ foldRuns ++ lowerRuns,
    r.first = 65 ∧ r.last = 90 ∧ r.step = 1 ∧ r.shift = 32 ∨
    128 ≤ r.first ∧ (128 ≤ r.first + r.shift ∨
      r.first = 0x17F ∧ r.last = 0x17F ∨ r.first = 0x212A ∧ r.last = 0x212A) := by
  decide +kernel

theorem covers_iff {r : Run} {n : ℕ} :
    r.covers n ↔ r.first ≤ n ∧ n ≤ r.last ∧ (n - r.first) % r.step = 0 := by
  simp [Run.covers, and_assoc]

theorem covers_of_find? {table : List Run} {r : Run} {n : ℕ}
    (h : table.find? (·.covers n) = some r) : r ∈ table ∧ r.first ≤ n ∧ n ≤ r.last := by
  have hcovers := List.find?_some h
  obtain ⟨hlow, hhigh, -⟩ := covers_iff.1 hcovers
  exact ⟨List.mem_of_find?_eq_some h, hlow, hhigh⟩

theorem shifted_of_lt {n : ℕ} (h : n < 128) :
    shifted (foldRuns ++ lowerRuns) n = if 65 ≤ n ∧ n ≤ 90 then n + 32 else n := by
  unfold shifted
  split
  · rename_i r hr
    obtain ⟨hmem, hlow, hhigh⟩ := covers_of_find? hr
    have hrun := first_of_mem r hmem
    rw [if_pos (by omega)]
    omega
  · rename_i hnone
    have hcapitals : ⟨65, 90, 1, 32⟩ ∈ foldRuns ++ lowerRuns := List.mem_append_right _ (.head _)
    have huncovered := mt covers_iff.2 (List.find?_eq_none.1 hnone _ hcapitals)
    rw [if_neg fun hn => huncovered ⟨hn.1, hn.2, Nat.mod_one _⟩]

theorem le_shifted {n : ℕ} (h : 128 ≤ n) (hs : n ≠ 0x17F) (hk : n ≠ 0x212A) :
    128 ≤ shifted (foldRuns ++ lowerRuns) n := by
  unfold shifted
  split
  · rename_i r hr
    obtain ⟨hmem, hlow, hhigh⟩ := covers_of_find? hr
    have hrun := first_of_mem r hmem
    omega
  · exact h

end Casing

open Casing (foldRuns lowerRuns shifted shifted_of_lt le_shifted)

/-- The character that stands for all that differ from `c` in case only. -/
def simpleFold (c : Char) : Char := Char.ofNat (shifted (foldRuns ++ lowerRuns) c.toNat)

/-- A character that spellings are written with. -/
def isPlain (k : Char) : Bool := k == ' ' || k.isLower

/-! ### ASCII -/

/-- What holds of the first 128 characters, one by one, holds of every ASCII character. -/
theorem forall_ascii {P : Char → Prop} (h : ∀ n < 128, P (Char.ofNat n)) {c : Char}
    (hc : c.toNat < 128) : P c := by
  rw [← Char.ofNat_toNat c]
  exact h _ hc

theorem isPlain_iff {k : Char} : isPlain k ↔ k = ' ' ∨ 97 ≤ k.toNat ∧ k.toNat ≤ 122 := by
  simp [isPlain, Char.isLower, UInt32.le_iff_toNat_le]

theorem isPlain_lt {k : Char} (h : isPlain k) : k.toNat < 128 := by
  obtain rfl | h := isPlain_iff.1 h
  · decide
  · omega

theorem toLower_of_le {c : Char} (h : 128 ≤ c.toNat) : c.toLower = c := by
  refine Char.toLower_eq_of_not_isUpper fun hupper => ?_
  simp only [Char.isUpper, decide_eq_true_eq, ge_iff_le, UInt32.le_iff_toNat_le] at hupper
  exact absurd (h.trans hupper.2) (by decide)

theorem simpleFold_of_lt {c : Char} (h : c.toNat < 128) : simpleFold c = c.toLower := by
  rw [simpleFold, shifted_of_lt h]
  exact forall_ascii (P := fun c =>
    Char.ofNat (if 65 ≤ c.toNat ∧ c.toNat ≤ 90 then c.toNat + 32 else c.toNat) = c.toLower)
    (by decide +kernel) h

theorem fold_of_lt {c : Char} (h : c.toNat < 128) : fold c = c.toLower := by
  rw [fold, if_neg (by omega), if_neg (by omega)]

theorem toLower_of_isPlain {k : Char} (h : isPlain k) : k.toLower = k :=
  forall_ascii (P := fun k => isPlain k → k.toLower = k) (by decide +kernel) (isPlain_lt h) h

/-! ### Beyond ASCII -/

theorem simpleFold_ne {c k : Char} (h : 128 ≤ c.toNat) (hs : c.toNat ≠ 0x17F)
    (hk : c.toNat ≠ 0x212A) (hplain : isPlain k) : simpleFold c ≠ k := by
  rintro rfl
  have hlt := isPlain_lt hplain
  have hle := le_shifted h hs hk
  rw [simpleFold, Char.toNat_ofNat] at hlt
  split_ifs at hlt with hvalid
  · omega
  · -- No character has this number: the null character stands in for it, which is not plain.
    rw [simpleFold, Char.ofNat, dif_neg hvalid] at hplain
    contradiction

/-- These are the characters that fold into ASCII. -/
theorem simpleFold_eq_fold {c : Char} (h : c.toNat < 128 ∨ c.toNat = 0x17F ∨ c.toNat = 0x212A) :
    simpleFold c = fold c := by
  obtain h | h | h := h
  · rw [simpleFold_of_lt h, fold_of_lt h]
  · obtain rfl : c = Char.ofNat 0x17F := by rw [← h, Char.ofNat_toNat]
    decide +kernel
  · obtain rfl : c = Char.ofNat 0x212A := by rw [← h, Char.ofNat_toNat]
    decide +kernel

theorem simpleFold_eq_iff {c k : Char} (h : isPlain k) :
    simpleFold c = simpleFold k ↔ fold c = k := by
  have hplain : simpleFold k = k := by
    rw [simpleFold_of_lt (isPlain_lt h), toLower_of_isPlain h]
  rw [hplain]
  by_cases hinto : c.toNat < 128 ∨ c.toNat = 0x17F ∨ c.toNat = 0x212A
  · rw [simpleFold_eq_fold hinto]
  · obtain ⟨hle, hs, hk⟩ : 128 ≤ c.toNat ∧ c.toNat ≠ 0x17F ∧ c.toNat ≠ 0x212A := by omega
    have hself : fold c = c := by rw [fold, if_neg hs, if_neg hk, toLower_of_le hle]
    rw [hself]
    refine iff_of_false (simpleFold_ne hle hs hk h) ?_
    rintro rfl
    exact absurd (isPlain_lt h) (not_lt.2 hle)

/-! ### The case of ASCII letters -/

theorem fold_toLower (c : Char) : fold c.toLower = fold c := by
  by_cases h : c.toNat < 128
  · exact forall_ascii (P := fun c => fold c.toLower = fold c) (by decide +kernel) h
  · rw [toLower_of_le (not_lt.1 h)]

theorem isWordChar_toLower (c : Char) : Word.isWordChar c.toLower = Word.isWordChar c := by
  by_cases h : c.toNat < 128
  · exact forall_ascii (P := fun c => Word.isWordChar c.toLower = Word.isWordChar c)
      (by decide +kernel) h
  · rw [toLower_of_le (not_lt.1 h)]

end CodeHealth.Text
