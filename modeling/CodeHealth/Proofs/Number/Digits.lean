import CodeHealth.Number.Digits
import CodeHealth.Number.Numeral
import CodeHealth.Proofs.Text.Trim
import Mathlib

/-! Whole numbers in decimal digits. -/

namespace CodeHealth.Number

theorem ofDecimals_toDigits (n : ℕ) : ofDecimals (Nat.toDigits 10 n) = n :=
  Nat.ofDigitChars_toDigits (by norm_num) (by norm_num)

/-- No number but zero begins with a zero. -/
theorem head?_toDigits {n : ℕ} (hn : n ≠ 0) : (Nat.toDigits 10 n).head? ≠ some '0' := by
  induction n using Nat.strong_induction_on with
  | _ n ih =>
    by_cases hlt : n < 10
    · rw [Nat.toDigits_of_lt_base hlt]
      interval_cases n <;> simp_all [Nat.digitChar]
    · have hhead := ih (n / 10) (by omega) (by omega)
      rw [Nat.toDigits_of_base_le (by norm_num) (by omega),
        List.head?_append_of_ne_nil _ Nat.toDigits_ne_nil]
      exact hhead

/-- The digits of a number are a lone zero, or begin with another digit. -/
theorem toDigits_cases (n : ℕ) : Nat.toDigits 10 n = ['0'] ∨
    ∃ c cs, Nat.toDigits 10 n = c :: cs ∧ isDecimal c ∧ c ≠ '0' := by
  by_cases hn : n = 0
  · subst hn
    exact .inl rfl
  · obtain ⟨c, cs, hcs⟩ := List.exists_cons_of_ne_nil (Nat.toDigits_ne_nil (n := n) (b := 10))
    have hhead := head?_toDigits hn
    rw [hcs] at hhead
    have hc : isDecimal c := isDecimal_of_mem_toDigits (hcs ▸ List.mem_cons_self)
    exact .inr ⟨c, cs, hcs, hc, by simpa using hhead⟩

/-- A whole number is written in digits, behind a minus sign if it is negative. -/
theorem toList_toString_int (i : ℤ) :
    (toString i).toList = (if i < 0 then ['-'] else []) ++ Nat.toDigits 10 i.natAbs := by
  rw [Int.toString_eq_repr]
  cases i with
  | ofNat n =>
    have hnonneg : ¬ Int.ofNat n < 0 := Int.not_lt.2 (Int.natCast_nonneg n)
    rw [if_neg hnonneg]
    exact Nat.toList_repr
  | negSucc n =>
    rw [if_pos (Int.negSucc_lt_zero n), Int.natAbs_negSucc, ← Nat.toList_repr]
    exact String.toList_append

/-! ### Plain digits -/

theorem ofDecimals_append (ds : List Char) (c : Char) :
    ofDecimals (ds ++ [c]) = 10 * ofDecimals ds + (c.toNat - 48) := by
  simp [ofDecimals]

theorem isDecimal_digitChar {n : ℕ} (h : n < 10) : isDecimal (Nat.digitChar n) := by
  rw [isDecimal_iff, Nat.toNat_digitChar_of_lt_ten h]
  omega

theorem toDigits_digit {c : Char} (h : isDecimal c) : Nat.toDigits 10 (c.toNat - 48) = [c] := by
  obtain ⟨hlow, hhigh⟩ := (isDecimal_iff c).1 h
  have hchar : Nat.digitChar (c.toNat - 48) = c := by
    rw [← Char.toNat_inj, Nat.toNat_digitChar_of_lt_ten (by omega)]
    omega
  rw [Nat.toDigits_of_lt_base (by omega), hchar]

theorem toDigits_append_digit {n : ℕ} {c : Char} (hn : 0 < n) (h : isDecimal c) :
    Nat.toDigits 10 (10 * n + (c.toNat - 48)) = Nat.toDigits 10 n ++ [c] := by
  have hlt : c.toNat - 48 < 10 := by
    have := (isDecimal_iff c).1 h
    omega
  rw [← Nat.toDigits_append_toDigits (by norm_num) hn hlt, toDigits_digit h]

/-- Decimal digits, at least one, with no zero in front of others. -/
structure Plain (ds : List Char) : Prop where
  isDecimal_of_mem : ∀ c ∈ ds, isDecimal c
  ne_nil : ds ≠ []
  eq_of_head? : ds.head? = some '0' → ds = ['0']

theorem plain_toDigits (n : ℕ) : Plain (Nat.toDigits 10 n) where
  isDecimal_of_mem _ := isDecimal_of_mem_toDigits
  ne_nil := Nat.toDigits_ne_nil
  eq_of_head? h := by
    by_cases hn : n = 0
    · subst hn
      rfl
    · exact absurd h (head?_toDigits hn)

/-- If more digits follow, the first ones are plain and do not begin with a zero. -/
theorem Plain.init {ds : List Char} {c : Char} (h : Plain (ds ++ [c])) (hds : ds ≠ []) :
    Plain ds ∧ ds.head? ≠ some '0' := by
  have hhead : ds.head? ≠ some '0' := fun hzero => by
    have hall := h.eq_of_head? (by rw [List.head?_append_of_ne_nil _ hds, hzero])
    exact hds (by simpa using congrArg List.dropLast hall)
  exact ⟨⟨fun d hd => h.isDecimal_of_mem d (List.mem_append_left _ hd), hds,
    fun hzero => absurd hzero hhead⟩, hhead⟩

/-- Only these digits are plain for their number. -/
theorem Plain.toDigits_ofDecimals {ds : List Char} (h : Plain ds) :
    Nat.toDigits 10 (ofDecimals ds) = ds := by
  induction ds using List.reverseRecOn with
  | nil => exact absurd rfl h.ne_nil
  | append_singleton ds c ih =>
    have hc : isDecimal c := h.isDecimal_of_mem c (List.mem_append_right _ (.head _))
    rw [ofDecimals_append]
    -- a lone digit may be a zero; otherwise the digits before the last one stand for more than zero
    by_cases hds : ds = []
    · subst hds
      exact (congrArg _ (Nat.zero_add _)).trans (toDigits_digit hc)
    · obtain ⟨hplain, hhead⟩ := h.init hds
      have hpos : 0 < ofDecimals ds := Nat.pos_of_ne_zero fun hzero => by
        rw [← ih hplain, hzero] at hhead
        exact hhead rfl
      rw [toDigits_append_digit hpos hc, ih hplain]

theorem Plain.eq_of_ofDecimals_eq {ds es : List Char} (h : Plain ds) (h' : Plain es)
    (heq : ofDecimals ds = ofDecimals es) : ds = es := by
  rw [← h.toDigits_ofDecimals, heq, h'.toDigits_ofDecimals]

theorem ofDecimals_pair (c d : Char) :
    ofDecimals [c, d] = 10 * (c.toNat - 48) + (d.toNat - 48) := by
  simp [ofDecimals]

/-! ### Numerals -/

theorem le_foldl_digits (ds : List ℕ) (n : ℕ) : n ≤ ds.foldl (fun n d => n * 10 + d) n := by
  induction ds generalizing n with
  | nil => exact le_rfl
  | cons d ds ih =>
    calc n ≤ n * 10 + d := by omega
      _ ≤ ds.foldl (fun n d => n * 10 + d) (n * 10 + d) := ih _

/-- Digits of a number of 64 bits are absorbed to the last. -/
theorem absorb_of_lt (ds : List ℕ) {n : ℕ}
    (h : ds.foldl (fun n d => n * 10 + d) n < UInt64.size) :
    absorb n ds = (ds.foldl (fun n d => n * 10 + d) n, []) := by
  induction ds generalizing n with
  | nil => rfl
  | cons d ds ih =>
    have hfits : n * 10 + d < UInt64.size := (le_foldl_digits ds _).trans_lt h
    rw [absorb, if_pos hfits, ih h, List.foldl_cons]

end CodeHealth.Number
