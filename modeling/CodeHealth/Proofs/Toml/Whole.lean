import CodeHealth.Proofs.Number.Digits
import CodeHealth.Toml.Reader
import CodeHealth.Toml.Writer
import Mathlib

/-! Whole numbers in TOML come back from their digits. The digits are first tried as moments and as
numbers with a fraction or an exponent, and each of these fails at the end of the line. -/

namespace CodeHealth.Toml

open Number (isDecimal hexValue ofDecimals)

variable {c : Char} {ds : List Char} (r : List Char)

/-! ### Moments -/

/-- A number of fixed width that begins with digits ends within them. -/
theorem fixedNumber_digits (hds : ∀ d ∈ ds, isDecimal d) {n v : ℕ} {s : List Char}
    (h : fixedNumber n (ds ++ '\n' :: r) = some (v, s)) :
    ∃ es, (∀ e ∈ es, isDecimal e) ∧ s = es ++ '\n' :: r := by
  unfold fixedNumber at h
  dsimp only at h
  split_ifs at h with htake
  have hwidth : n ≤ ds.length := by
    by_contra hlong
    have hmem : '\n' ∈ (ds ++ '\n' :: r).take n := by
      rw [List.take_append, List.mem_append]
      right
      obtain ⟨m, hm⟩ := Nat.exists_eq_add_of_lt (not_le.1 hlong)
      rw [show n - ds.length = m + 1 by omega, List.take_succ_cons]
      exact List.mem_cons_self
    have := List.all_eq_true.1 (Bool.and_eq_true_iff.1 htake).2 _ hmem
    contradiction
  refine ⟨ds.drop n, fun e he => hds e (List.mem_of_mem_drop he), ?_⟩
  rw [← (Prod.mk.inj (Option.some.inj h)).2, List.drop_append_of_le_length hwidth]

theorem mark_digits (hds : ∀ d ∈ ds, isDecimal d) (hc : isDecimal c = false) (hfeed : c ≠ '\n') :
    mark c (ds ++ '\n' :: r) = none := by
  cases ds with
  | nil => simp [mark, hfeed]
  | cons d ds =>
    have hd : c ≠ d := by
      rintro rfl
      rw [hds c List.mem_cons_self] at hc
      contradiction
    simp [mark, hd]

theorem dateOrTime_digits (hds : ∀ d ∈ ds, isDecimal d) : dateOrTime (ds ++ '\n' :: r) = none := by
  have hdate : date (ds ++ '\n' :: r) = none := by
    cases hyear : fixedNumber 4 (ds ++ '\n' :: r) with
    | none => simp [date, hyear]
    | some p =>
      obtain ⟨es, hes, hrest⟩ := fixedNumber_digits r hds hyear
      simp [date, hyear, hrest, mark_digits r hes (c := '-') (by decide) (by decide)]
  have htime : time (ds ++ '\n' :: r) = none := by
    cases hhour : fixedNumber 2 (ds ++ '\n' :: r) with
    | none => simp [time, hhour]
    | some p =>
      obtain ⟨es, hes, hrest⟩ := fixedNumber_digits r hds hhour
      simp [time, hhour, hrest, mark_digits r hes (c := ':') (by decide) (by decide)]
  rw [dateOrTime, hdate, htime]
  rfl

/-! ### Numbers -/

theorem digitRun_cons_of_not {accepts : Char → Bool} (h : accepts c = false) :
    digitRun accepts (c :: r) = none := by
  unfold digitRun
  split <;> simp_all

theorem digitRun_digits (hds : ∀ d ∈ ds, isDecimal d) (hne : ds ≠ []) :
    digitRun isDecimal (ds ++ '\n' :: r) = some (ds, '\n' :: r) := by
  induction ds with
  | nil => exact absurd rfl hne
  | cons d ds ih =>
    obtain ⟨hd, hds⟩ := List.forall_mem_cons.1 hds
    cases ds with
    | nil =>
      have hend : digitRun isDecimal ('\n' :: r) = none := digitRun_cons_of_not r (by decide)
      rw [List.singleton_append, digitRun]
      · simp [hd, hend]
      · simp
      · simp
    | cons e es =>
      have hrest := ih hds (List.cons_ne_nil e es)
      have he : e ≠ '_' := by
        rintro rfl
        have := hds '_' List.mem_cons_self
        contradiction
      rw [List.cons_append, List.cons_append, digitRun]
      · simp only [hd, if_true]
        rw [← List.cons_append, hrest]
      · simp
      · simpa using he

theorem sign_of_isDecimal (hc : isDecimal c) : sign (c :: r) = (false, c :: r) := by
  unfold sign
  split
  · simp_all [isDecimal]
  · simp_all [isDecimal]
  · rfl

/-- The digits of a number up to the end of the line; none of them follows a zero. -/
theorem decimal_toDigits (n : ℕ) :
    decimal (Nat.toDigits 10 n ++ '\n' :: r) = some (Nat.toDigits 10 n, '\n' :: r) := by
  rcases Number.toDigits_cases n with hzero | ⟨c, cs, hdigits, -, hc⟩
  · rw [hzero]
    rfl
  · have hall : ∀ d ∈ c :: cs, isDecimal d := fun d hd =>
      Number.isDecimal_of_mem_toDigits (hdigits ▸ hd)
    rw [hdigits, decimal, digitRun_digits r hall (List.cons_ne_nil c cs)]
    simpa using hc

theorem foldl_hexValue (hds : ∀ d ∈ ds, isDecimal d) (n : ℕ) :
    ds.foldl (fun n d => 10 * n + (hexValue d).getD 0) n =
      ds.foldl (fun n d => 10 * n + (d.toNat - 48)) n := by
  induction ds generalizing n with
  | nil => rfl
  | cons d ds ih =>
    obtain ⟨hd, hds⟩ := List.forall_mem_cons.1 hds
    have hvalue : hexValue d = some (d.toNat - 48) := by rw [hexValue, if_pos hd]
    rw [List.foldl_cons, List.foldl_cons, hvalue, Option.getD_some, ih hds]

theorem valueIn_toDigits (n : ℕ) : valueIn 10 (Nat.toDigits 10 n) = n := by
  rw [valueIn, foldl_hexValue fun d hd => Number.isDecimal_of_mem_toDigits hd]
  exact Number.ofDecimals_toDigits n

theorem inRange_of_lt {n : ℕ} (h : n < 2 ^ 63) : inRange n = some (.whole n) := by
  have hself : (Int64.ofInt n).toInt = n := Int64.toInt_ofInt_of_le (by omega) (by omega)
  rw [inRange, if_pos hself]

section

variable (n : ℕ)

theorem exists_toDigits_cons : ∃ c cs, Nat.toDigits 10 n = c :: cs ∧ isDecimal c := by
  rcases Number.toDigits_cases n with hzero | ⟨c, cs, hdigits, hc, -⟩
  · exact ⟨'0', [], hzero, by decide⟩
  · exact ⟨c, cs, hdigits, hc⟩

theorem sign_toDigits : sign (Nat.toDigits 10 n ++ r) = (false, Nat.toDigits 10 n ++ r) := by
  obtain ⟨c, cs, hdigits, hc⟩ := exists_toDigits_cons n
  rw [hdigits]
  exact sign_of_isDecimal _ hc

theorem fractional_toDigits : fractional (Nat.toDigits 10 n ++ '\n' :: r) = none := by
  simp [fractional, sign_toDigits, decimal_toDigits, fractionPart, exponentPart]

theorem namedReal_toDigits : namedReal (Nat.toDigits 10 n ++ '\n' :: r) = none := by
  obtain ⟨c, cs, hdigits, hc⟩ := exists_toDigits_cons n
  rw [namedReal, sign_toDigits, hdigits]
  split <;> simp_all [isDecimal]

theorem wholeNumber_toDigits (h : n < 2 ^ 63) :
    wholeNumber (Nat.toDigits 10 n ++ '\n' :: r) = some (.whole n, '\n' :: r) := by
  have hdefault : wholeNumber (Nat.toDigits 10 n ++ '\n' :: r) =
      (decimal (Nat.toDigits 10 n ++ '\n' :: r)).bind fun p =>
        (inRange (valueIn 10 p.1)).bind fun v => some (v, p.2) := by
    rcases Number.toDigits_cases n with hzero | ⟨c, cs, hdigits, hc, hne⟩
    · rw [hzero]
      rfl
    · have hsign := sign_toDigits ('\n' :: r) n
      rw [hdigits, List.cons_append] at hsign ⊢
      unfold wholeNumber
      split
      · simp_all
      · simp_all
      · simp_all
      · rw [hsign]
        rfl
  rw [hdefault, decimal_toDigits, Option.bind_some, valueIn_toDigits, inRange_of_lt h]
  rfl

end

theorem leaf_of_isDecimal {cs : List Char} (h : ∃ c ∈ cs.head?, isDecimal c) :
    leaf cs =
      (dateOrTime cs <|> fractional cs <|> namedReal cs <|> wholeNumber cs <|> word cs) := by
  obtain ⟨c, hc, hdecimal⟩ := h
  unfold leaf
  split
  · cases hc
    contradiction
  · cases hc
    contradiction
  · rfl

/-- A whole number is read back. -/
theorem leaf_toDigits {n : ℕ} (h : n < 2 ^ 63) :
    leaf (Nat.toDigits 10 n ++ '\n' :: r) = some (.whole n, '\n' :: r) := by
  have hhead : ∃ c ∈ (Nat.toDigits 10 n ++ '\n' :: r).head?, isDecimal c := by
    obtain ⟨c, cs, hdigits, hc⟩ := exists_toDigits_cons n
    exact ⟨c, by simp [hdigits], hc⟩
  have hmoment := dateOrTime_digits r fun d hd => Number.isDecimal_of_mem_toDigits (n := n) hd
  rw [leaf_of_isDecimal hhead, hmoment, fractional_toDigits, namedReal_toDigits,
    wholeNumber_toDigits r n h]
  rfl

end CodeHealth.Toml
