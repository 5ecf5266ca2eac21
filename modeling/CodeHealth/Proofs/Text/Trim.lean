import CodeHealth.Number.Digits
import CodeHealth.Text.Blank
import Mathlib

/-! Trimming. A trimmed text begins and ends with characters that are not blank, and nothing is left
of a text just when all of it is blank. -/

namespace CodeHealth

namespace Number

theorem isDecimal_iff (c : Char) : isDecimal c ↔ 48 ≤ c.toNat ∧ c.toNat ≤ 57 := by
  simp only [isDecimal, Bool.and_eq_true, decide_eq_true_eq]
  rfl

theorem isDecimal_of_mem_toDigits {n : ℕ} {c : Char} (h : c ∈ Nat.toDigits 10 n) : isDecimal c := by
  rw [isDecimal_iff]
  have hdigit := Nat.isDigit_of_mem_toDigits (by norm_num) (by norm_num) h
  simp only [Char.isDigit, Bool.and_eq_true, decide_eq_true_eq, ge_iff_le,
    UInt32.le_iff_toNat_le] at hdigit
  exact hdigit

end Number

namespace Text

open Number (isDecimal isDecimal_iff)

def Blank (s : String) : Prop := ∀ c ∈ s.toList, isBlank c

/-- There are no blanks at the ends of the text. -/
def Trimmed (s : String) : Prop :=
  (∀ c ∈ s.toList.head?, isBlank c = false) ∧ ∀ c ∈ s.toList.getLast?, isBlank c = false

/-- The ends of a text that is given as a list can be looked at. -/
theorem trimmed_ofList {cs : List Char} (hhead : cs.head?.all (!isBlank ·))
    (hlast : cs.getLast?.all (!isBlank ·)) : Trimmed (String.ofList cs) := by
  rw [Trimmed, String.toList_ofList]
  constructor
  · intro c hc
    rw [Option.mem_def.1 hc] at hhead
    simpa using hhead
  · intro c hc
    rw [Option.mem_def.1 hc] at hlast
    simpa using hlast

theorem isBlank_of_isDecimal {c : Char} (h : isDecimal c) : isBlank c = false := by
  obtain ⟨hlow, hhigh⟩ := (isDecimal_iff c).1 h
  unfold isBlank
  simp
  omega

theorem toList_trim (s : String) : (trim s).toList = trimEnd (trimStart s.toList) :=
  String.toList_ofList

theorem isBlank_head?_trimStart (cs : List Char) {c : Char} (hc : c ∈ (trimStart cs).head?) :
    isBlank c = false := by
  have hhead := List.head?_dropWhile_not isBlank cs
  rw [show (cs.dropWhile isBlank).head? = some c from hc] at hhead
  exact hhead

theorem trimEnd_isPrefix (cs : List Char) : trimEnd cs <+: cs := by
  have hsuffix := List.reverse_prefix.2 (cs.reverse.dropWhile_suffix isBlank)
  rwa [List.reverse_reverse] at hsuffix

theorem isBlank_getLast?_trimEnd {cs : List Char} {c : Char} (hc : c ∈ (trimEnd cs).getLast?) :
    isBlank c = false := by
  rw [trimEnd, List.getLast?_reverse] at hc
  exact isBlank_head?_trimStart _ hc

theorem trimmed_trim (s : String) : Trimmed (trim s) := by
  rw [Trimmed, toList_trim]
  refine ⟨fun c hc => ?_, fun c => isBlank_getLast?_trimEnd⟩
  obtain ⟨rest, hrest⟩ := trimEnd_isPrefix (trimStart s.toList)
  refine isBlank_head?_trimStart s.toList ?_
  rw [← hrest, List.head?_append, Option.mem_def.1 hc]
  rfl

theorem dropWhile_of_head? {cs : List Char} (h : ∀ c ∈ cs.head?, isBlank c = false) :
    cs.dropWhile isBlank = cs := by
  cases cs with
  | nil => rfl
  | cons c cs => rw [List.dropWhile_cons_of_neg (by simp [h c rfl])]

/-- Nothing is left to trim. -/
theorem Trimmed.trim_eq {s : String} (h : Trimmed s) : trim s = s := by
  have hend : s.toList.reverse.dropWhile isBlank = s.toList.reverse :=
    dropWhile_of_head? fun c hc => h.2 c (List.head?_reverse ▸ hc)
  rw [trim, trimStart, dropWhile_of_head? h.1, trimEnd, hend, List.reverse_reverse,
    String.ofList_toList]

theorem trimStart_append {spaces cs : List Char} (hspaces : ∀ c ∈ spaces, isBlank c) :
    trimStart (spaces ++ cs) = trimStart cs := by
  rw [trimStart, List.dropWhile_append_of_pos hspaces, trimStart]

theorem trimEnd_eq_nil_iff (cs : List Char) : trimEnd cs = [] ↔ ∀ c ∈ cs, isBlank c := by
  simp [trimEnd, List.dropWhile_eq_nil_iff]

theorem trim_eq_empty_iff (s : String) : trim s = "" ↔ Blank s := by
  rw [← String.toList_inj, toList_trim, show "".toList = [] from rfl, trimEnd_eq_nil_iff, Blank]
  constructor
  · intro h c hc
    rw [← s.toList.takeWhile_append_dropWhile (p := isBlank)] at hc
    rcases List.mem_append.1 hc with hc | hc
    · exact List.mem_takeWhile_imp hc
    · exact h c hc
  · intro h c hc
    exact h c ((List.dropWhile_suffix isBlank).subset hc)

/-- A text that has been trimmed begins with the first character that is not blank. -/
theorem head?_trim {s : String} {spaces rest : List Char} {c : Char}
    (hs : s.toList = spaces ++ c :: rest) (hspaces : ∀ d ∈ spaces, isBlank d)
    (hc : isBlank c = false) : (trim s).toList.head? = some c := by
  have hstart : trimStart s.toList = c :: rest := by
    rw [hs, trimStart_append hspaces, trimStart, List.dropWhile_cons_of_neg (by simp [hc])]
  rw [toList_trim, hstart]
  obtain ⟨after, hafter⟩ := trimEnd_isPrefix (c :: rest)
  cases hend : trimEnd (c :: rest) with
  | nil =>
    have hblank := (trimEnd_eq_nil_iff _).1 hend c List.mem_cons_self
    rw [hc] at hblank
    contradiction
  | cons d ds =>
    rw [hend, List.cons_append, List.cons.injEq] at hafter
    rw [List.head?_cons, hafter.1]

end Text

end CodeHealth
