import CodeHealth.Calendar.Timestamp
import CodeHealth.Proofs.Text.Trim
import Mathlib

/-! Every instant is read back from its text: years of any length and sign, leap seconds, and
fractions of any precision. -/

namespace CodeHealth.Instant

open Number (isDecimal isDecimal_of_mem_toDigits ofDecimals)
open Text

/-! ### Padded numbers -/

theorem ofDecimals_padded (width n : ℕ) : ofDecimals (padded width n) = n := by
  change Nat.ofDigitChars 10 (padded width n) 0 = n
  simp [padded, Nat.ofDigitChars_append]

theorem isDecimal_of_mem_padded {width n : ℕ} {c : Char} (h : c ∈ padded width n) :
    isDecimal c := by
  rcases List.mem_append.1 h with hzero | hdigit
  · rw [List.eq_of_mem_replicate hzero]
    decide
  · exact isDecimal_of_mem_toDigits hdigit

theorem length_padded {width n : ℕ} (hwidth : 0 < width) (h : n < 10 ^ width) :
    (padded width n).length = width := by
  have := (Nat.length_toDigits_le_iff (by norm_num) hwidth).2 h
  simp only [padded, List.length_append, List.length_replicate]
  omega

theorem padded_ne_nil (width n : ℕ) : padded width n ≠ [] := by
  simp [padded]

theorem takeWhile_padded (width n : ℕ) {rest : List Char}
    (hrest : ∀ c ∈ rest.head?, isDecimal c = false) :
    (padded width n ++ rest).takeWhile isDecimal = padded width n := by
  rw [List.takeWhile_append_of_pos fun c hc => isDecimal_of_mem_padded hc]
  cases rest with
  | nil => simp
  | cons c rest => simp [hrest c rfl]

theorem trimStart_padded (width n : ℕ) (rest : List Char) :
    trimStart (padded width n ++ rest) = padded width n ++ rest := by
  obtain ⟨c, cs, hcs⟩ := List.exists_cons_of_ne_nil (padded_ne_nil width n)
  have hc : isDecimal c := isDecimal_of_mem_padded (hcs ▸ List.mem_cons_self)
  simp [trimStart, hcs, isBlank_of_isDecimal hc]

/-- A number of a set width is read whatever follows it. -/
theorem number_padded {width n : ℕ} (hwidth : 0 < width) (h : n < 10 ^ width)
    (rest : List Char) : number width (padded width n ++ rest) = some (n, rest) := by
  have hlen := length_padded hwidth h
  have htake : (padded width n ++ rest).take width = padded width n := by
    rw [List.take_append_of_le_length hlen.ge, List.take_of_length_le hlen.le]
  have hwhile : (padded width n).takeWhile isDecimal = padded width n :=
    List.takeWhile_eq_self_iff.2 fun c hc => isDecimal_of_mem_padded hc
  unfold number
  simp only [htake, hwhile, List.isEmpty_iff, padded_ne_nil, ↓reduceIte, ofDecimals_padded,
    List.drop_left]

theorem field_padded {width n : ℕ} (hwidth : 0 < width) (h : n < 10 ^ width)
    (rest : List Char) : field width (padded width n ++ rest) = some (n, rest) := by
  rw [field, trimStart_padded, number_padded hwidth h]

theorem literal_self {c : Char} (h : isBlank c = false) (rest : List Char) :
    literal c (c :: rest) = some rest := by
  simp [literal, trimStart, h]

/-! ### Years and fractions -/

theorem number_signed (n : ℕ) (rest : List Char) :
    number (padded 4 n ++ '-' :: rest).length (padded 4 n ++ '-' :: rest)
      = some (n, '-' :: rest) := by
  have hminus : ∀ c ∈ ('-' :: rest).head?, isDecimal c = false := by
    rintro c ⟨⟩
    decide
  unfold number
  simp only [List.take_length, takeWhile_padded 4 n hminus, List.isEmpty_iff, padded_ne_nil,
    ↓reduceIte, ofDecimals_padded, List.drop_left]

theorem year_writeYear (y : ℤ) (rest : List Char) :
    year (writeYear y ++ '-' :: rest) = some (y, '-' :: rest) := by
  unfold writeYear
  split_ifs with hplain hneg
  · have hnumber := number_padded (by norm_num) (show y.toNat < 10 ^ 4 by omega) ('-' :: rest)
    obtain ⟨c, cs, hcs⟩ := List.exists_cons_of_ne_nil (padded_ne_nil 4 y.toNat)
    have hc : isDecimal c := isDecimal_of_mem_padded (hcs ▸ List.mem_cons_self)
    unfold year
    rw [trimStart_padded]
    -- a digit at the front is no sign
    split
    · rename_i heq
      obtain ⟨rfl, -⟩ := List.cons.inj (hcs ▸ heq)
      exact absurd hc (by decide)
    · rename_i heq
      obtain ⟨rfl, -⟩ := List.cons.inj (hcs ▸ heq)
      exact absurd hc (by decide)
    · rw [hnumber, Option.map_some]
      congr 2
      omega
  · simp only [year, trimStart, List.cons_append, number_signed,
      List.dropWhile_cons_of_neg (show ¬ isBlank '-' by decide), Option.map_some]
    congr 2
    omega
  · simp only [year, trimStart, List.cons_append, number_signed,
      List.dropWhile_cons_of_neg (show ¬ isBlank '+' by decide), Option.map_some]
    congr 2
    omega

theorem fraction_padded {width n : ℕ} (hwidth : 0 < width) (hnine : width ≤ 9)
    (h : n < 10 ^ width) :
    fraction ('.' :: padded width n ++ ['Z']) = some (n * 10 ^ (9 - width), ['Z']) := by
  have hlen := length_padded hwidth h
  have hZ : ∀ c ∈ ['Z'].head?, isDecimal c = false := by
    rintro c ⟨⟩
    decide
  have htake : (padded width n).take 9 = padded width n :=
    List.take_of_length_le (by omega)
  simp only [fraction, List.cons_append, takeWhile_padded width n hZ, List.isEmpty_iff,
    padded_ne_nil, ↓reduceIte, htake, ofDecimals_padded, hlen, List.drop_left' hlen]
  rfl

theorem fraction_writeFraction {nano : ℕ} (h : nano < 10 ^ 9) :
    fraction (writeFraction nano ++ ['Z']) = some (nano, ['Z']) := by
  unfold writeFraction
  split_ifs with hzero hmilli hmicro
  · subst hzero
    rfl
  · rw [fraction_padded (by norm_num) (by norm_num) (by omega)]
    congr 2
    omega
  · rw [fraction_padded (by norm_num) (by norm_num) (by omega)]
    congr 2
    omega
  · rw [fraction_padded (by norm_num) (by norm_num) (by omega)]
    congr 2
    omega

/-! ### Whole instants -/

theorem back_zero {c : Clock} (h : c.isValid) : c.back 0 = c := by
  simp only [Clock.isValid, Bool.and_eq_true, decide_eq_true_eq] at h
  have hhour : (((c.hour : ℤ) * 60 + c.minute) % 1440).toNat / 60 = c.hour := by omega
  have hminute : (((c.hour : ℤ) * 60 + c.minute) % 1440).toNat % 60 = c.minute := by omega
  have hearly : ¬ (c.hour : ℤ) * 60 + c.minute < 0 := by omega
  have hlate : ¬ 1440 ≤ (c.hour : ℤ) * 60 + c.minute := by omega
  simp only [Clock.back, sub_zero, if_neg hearly, if_neg hlate, hhour, hminute]

theorem offset_utc : offset (trimStart ['Z']) = some (0, []) := by
  rfl

theorem daysIn_le (y : ℤ) (m : ℕ) : Clock.daysIn y m ≤ 31 := by
  unfold Clock.daysIn
  split_ifs <;> omega

theorem bind_some {α β : Type} (a : α) (f : α → Option β) : (some a >>= f) = f a := rfl

/-- Every instant is read back from its own text. -/
theorem read_write (t : Instant) : read t.write = some t := by
  obtain ⟨c, hc⟩ := t
  have hbounds := hc
  simp only [Clock.isValid, Bool.and_eq_true, decide_eq_true_eq] at hbounds
  have hday := daysIn_le c.year c.month
  have hread : ofClock? c = some ⟨c, hc⟩ := dif_pos hc
  have hfield {n : ℕ} (h : n < 10 ^ 2) (rest : List Char) :
      field 2 (padded 2 n ++ rest) = some (n, rest) := field_padded (by norm_num) h rest
  have hfraction := fraction_writeFraction (show c.nano < 10 ^ 9 by omega)
  unfold read write dateChars
  simp only [String.toList_ofList, List.append_assoc, List.cons_append]
  have hdash : isBlank '-' = false := by decide
  have hcolon : isBlank ':' = false := by decide
  -- one part after the other, from the year to the offset
  rw [year_writeYear, bind_some, literal_self hdash, bind_some, hfield (by omega), bind_some,
    literal_self hdash, bind_some, hfield (by omega), bind_some]
  dsimp only
  rw [if_pos (.inl rfl), bind_some, hfield (by omega), bind_some, literal_self hcolon, bind_some,
    hfield (by omega), bind_some, literal_self hcolon, bind_some, hfield (by omega), bind_some,
    hfraction, bind_some, offset_utc, bind_some]
  dsimp only
  rw [hread, bind_some, back_zero hc, hread]
  rfl

end CodeHealth.Instant
