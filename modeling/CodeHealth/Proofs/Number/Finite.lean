import CodeHealth.Number.Numeral
import CodeHealth.Proofs.Number.Rounding
import Mathlib

/-! Which binary numbers are finite. A numeral is read as a finite number or not at all, and a
finite 32-bit number comes back from its 64-bit form unchanged. -/

namespace CodeHealth

open Number

/-! ### Bits and readings -/

namespace Binary64

theorem isFinite_iff (x : Binary64) :
    x.isFinite ↔ ∃ negative m q, x.reading = .finite negative m q := by
  unfold isFinite
  cases x.reading <;> simp

theorem reading_ofMagnitude (negative : Bool) {magnitude : ℕ}
    (h : magnitude < Format.binary64.infinity) :
    (ofMagnitude negative magnitude).reading =
      read .binary64 (withSign .binary64 negative magnitude) := by
  have hlt : withSign .binary64 negative magnitude < 2 ^ 64 := by
    have hinf : Format.binary64.infinity < 2 ^ 63 := by decide
    have hsign : Format.binary64.signBit = 2 ^ 63 := by decide
    cases negative <;> simp only [withSign, Bool.false_eq_true, ↓reduceIte] <;> omega
  unfold reading ofMagnitude
  rw [UInt64.toNat_ofNat_of_lt' hlt]

theorem reading_ofRatio {m num den : ℕ} {q : ℤ} (negative : Bool)
    (h : Represents .binary64 m q) (hden : 0 < den) (hv : (num : ℚ) / den = m * 2 ^ q) :
    (ofRatio negative num den).reading = .finite negative m q := by
  rw [ofRatio, nearest_exact h hden hv, reading_ofMagnitude negative (pack_lt_infinity h),
    read_pack negative h]

/-- The greatest finite magnitude. -/
def largest : ℚ := (2 ^ 53 - 1) * 2 ^ 971

theorem isFinite_ofRatio {num den : ℕ} (negative : Bool) (hden : 0 < den)
    (hv : (num : ℚ) / den ≤ largest) : (ofRatio negative num den).isFinite := by
  have hlt : nearest .binary64 num den < Format.binary64.infinity := by
    refine nearest_lt_infinity (by decide) hden (hv.trans_eq ?_)
    rw [show greatest .binary64 = 971 by decide]
    norm_num [largest, Format.binary64]
  rw [isFinite_iff, ofRatio, reading_ofMagnitude negative hlt, read_withSign negative hlt]
  split_ifs
  · exact ⟨_, _, _, rfl⟩
  · exact ⟨_, _, _, rfl⟩

/-- Every finite 32-bit number is a 64-bit number. -/
theorem represents_of_binary32 {m : ℕ} {q : ℤ} (h : Represents .binary32 m q) :
    ∃ m' q', Represents .binary64 m' q' ∧ (m' : ℚ) * 2 ^ q' = m * 2 ^ q := by
  have hleast : Format.binary64.least = -1074 := by decide
  have hgreatest : greatest .binary64 = 971 := by decide
  have hfraction : Format.binary64.fraction = 52 := rfl
  have hlower := h.lower
  have hupper := h.upper
  rw [show Format.binary32.least = -149 by decide] at hlower
  rw [show greatest .binary32 = 104 by decide] at hupper
  have hfits : m < 2 ^ 24 := h.fits
  rcases Nat.eq_zero_or_pos m with rfl | hm
  · exact ⟨0, -1074, ⟨by omega, by omega, by decide, .inr hleast.symm⟩, by simp⟩
  · -- the leading bit moves up to the place of the wider fraction
    have hlog : m.log2 < 24 := (Nat.log2_lt hm.ne').2 hfits
    have hself := Nat.log2_self_le hm.ne'
    have hnext := Nat.lt_log2_self (n := m)
    have hsplit : 2 ^ 52 = 2 ^ m.log2 * 2 ^ (52 - m.log2) := by
      rw [← pow_add, Nat.add_sub_of_le (by omega)]
    refine ⟨m * 2 ^ (52 - m.log2), q - (52 - m.log2 : ℕ), ⟨by omega, by omega, ?_, .inl ?_⟩, ?_⟩
    · rw [hfraction]
      calc m * 2 ^ (52 - m.log2) < 2 ^ (m.log2 + 1) * 2 ^ (52 - m.log2) :=
            Nat.mul_lt_mul_of_pos_right hnext (Nat.two_pow_pos _)
        _ = 2 ^ (52 + 1) := by
          rw [← pow_add, show m.log2 + 1 + (52 - m.log2) = 52 + 1 by omega]
    · rw [hfraction]
      calc 2 ^ 52 = 2 ^ m.log2 * 2 ^ (52 - m.log2) := hsplit
        _ ≤ m * 2 ^ (52 - m.log2) := Nat.mul_le_mul_right _ hself
    · push_cast
      rw [zpow_sub₀ (by norm_num), zpow_natCast]
      field_simp

end Binary64

namespace Binary32

theorem isFinite_iff (x : Binary32) :
    x.isFinite ↔ ∃ negative m q, x.reading = .finite negative m q := by
  unfold isFinite
  cases x.reading <;> simp

/-- A finite 32-bit number comes back from 64 bits. -/
theorem ofBinary64_widen {x : Binary32} (h : x.isFinite) : ofBinary64 x.widen = x := by
  obtain ⟨negative, m, q, hx⟩ := (isFinite_iff x).1 h
  obtain ⟨hrep, hbits⟩ := represents_of_read (by decide) (x.bits.toNat_lt.trans_eq (by decide)) hx
  obtain ⟨m', q', hrep', hv⟩ := Binary64.represents_of_binary32 hrep
  have hwide : x.widen.reading = .finite negative m' q' := by
    rw [widen, hx]
    refine Binary64.reading_ofRatio negative hrep' (scaleByTwo_den_pos m q one_pos) ?_
    rw [scaleByTwo_ratio, hv]
    simp
  have hback : nearest .binary32 (scaleByTwo m' 1 q').1 (scaleByTwo m' 1 q').2 =
      pack .binary32 m q := by
    refine nearest_exact hrep (scaleByTwo_den_pos m' q' one_pos) ?_
    rw [scaleByTwo_ratio, ← hv]
    simp
  rw [ofBinary64, hwide]
  simp only [ofRatio, ofMagnitude, hback]
  rw [← hbits]
  simp

end Binary32

/-! ### Numerals -/

namespace Binary64

theorem isFinite_ofRatio_nat (negative : Bool) {n : ℕ} (h : n < 2 ^ 64) :
    (ofRatio negative n 1).isFinite := by
  refine isFinite_ofRatio negative one_pos ?_
  have hn : (n : ℚ) ≤ 2 ^ 64 := by exact_mod_cast h.le
  simp only [Nat.cast_one, div_one]
  calc (n : ℚ) ≤ 2 ^ 64 := hn
    _ ≤ 2 ^ 971 := pow_le_pow_right₀ (by norm_num) (by norm_num)
    _ ≤ largest := le_mul_of_one_le_left (by positivity) (by norm_num)

theorem ratio?_spec {x : Binary64} {negative : Bool} {a b : ℕ}
    (h : x.ratio? = some (negative, a, b)) : 0 < b ∧ (a : ℚ) / b ≤ largest := by
  unfold ratio? at h
  split at h
  next s m q hx =>
    obtain ⟨-, hab⟩ := Prod.mk.inj (Option.some.inj h)
    obtain ⟨hrep, -⟩ := represents_of_read (by decide) (x.bits.toNat_lt.trans_eq (by decide)) hx
    have hm : (m : ℚ) ≤ 2 ^ 53 - 1 := by
      have hfits : m + 1 ≤ 2 ^ 53 := hrep.fits
      have : ((m + 1 : ℕ) : ℚ) ≤ (2 ^ 53 : ℕ) := by exact_mod_cast hfits
      push_cast at this
      linarith
    have hq : q ≤ 971 := hrep.upper.trans_eq (by decide)
    have hratio := scaleByTwo_ratio m 1 q
    have hden := scaleByTwo_den_pos m q one_pos
    rw [hab] at hratio hden
    refine ⟨hden, ?_⟩
    calc (a : ℚ) / b = m * 2 ^ q := by simpa using hratio
      _ ≤ (2 ^ 53 - 1) * 2 ^ (971 : ℤ) := by gcongr; norm_num
      _ = largest := rfl
  next => cases h

/-- The powers of ten that numbers are divided by are not less than one. -/
theorem power_ratio : ∀ n < largestPower + 1,
    (power n).ratio?.any (fun r => decide (r.2.2 ≤ r.2.1 ∧ 0 < r.2.2)) = true := by
  decide +kernel

theorem isFinite_div_power {x : Binary64} (hx : x.isFinite) {n : ℕ} (hn : n ≤ largestPower) :
    (x.div (power n)).isFinite := by
  obtain ⟨⟨t, c, d⟩, hy, hcd⟩ := (Option.any_eq_true _ _).1 (power_ratio n (Nat.lt_succ_of_le hn))
  obtain ⟨hle, hd⟩ : d ≤ c ∧ 0 < d := by simpa using hcd
  obtain ⟨s, m, q, hread⟩ := (isFinite_iff x).1 hx
  obtain ⟨a, b, hratio⟩ : ∃ a b, x.ratio? = some (s, a, b) :=
    ⟨(scaleByTwo m 1 q).1, (scaleByTwo m 1 q).2, by simp [ratio?, hread]⟩
  obtain ⟨hb, hab⟩ := ratio?_spec hratio
  have hc : 0 < c := hd.trans_le hle
  have hb' : (0 : ℚ) < b := by exact_mod_cast hb
  have hd' : (0 : ℚ) < d := by exact_mod_cast hd
  have hc' : (0 : ℚ) < c := by exact_mod_cast hc
  have hdc : (d : ℚ) / c ≤ 1 := (div_le_one hc').2 (by exact_mod_cast hle)
  rw [div, hratio, hy]
  dsimp only
  rw [if_neg hc.ne']
  refine isFinite_ofRatio _ (Nat.mul_pos hb hc) ?_
  calc ((a * d : ℕ) : ℚ) / (b * c : ℕ) = a / b * (d / c) := by push_cast; field_simp
    _ ≤ a / b * 1 := by gcongr
    _ ≤ largest := by rwa [mul_one]

theorem isFinite_negate (x : Binary64) : x.negate.isFinite = x.isFinite := by
  have hbits : x.negate.bits.toNat = x.bits.toNat ^^^ 2 ^ 63 := by simp [negate]
  have hmod : x.negate.bits.toNat % 2 ^ 63 = x.bits.toNat % 2 ^ 63 := by
    rw [hbits, Nat.xor_mod_two_pow, Nat.mod_self, Nat.xor_zero]
  have hfield (b : ℕ) : b / 2 ^ 52 % 2 ^ 11 = b % 2 ^ 63 / 2 ^ 52 := by
    rw [← Nat.mod_mul_right_div_self, ← pow_add]
  rw [Bool.eq_iff_iff, isFinite_iff, isFinite_iff]
  unfold reading
  rw [read_finite_iff, read_finite_iff]
  change x.negate.bits.toNat / 2 ^ 52 % 2 ^ 11 ≠ _ ↔ x.bits.toNat / 2 ^ 52 % 2 ^ 11 ≠ _
  rw [hfield, hfield, hmod]

end Binary64

namespace Number

theorem isFinite_scale {x y : Binary64} {e : ℤ} {n : ℕ} (hx : x.isFinite)
    (h : scale x e n = some y) : y.isFinite := by
  induction n generalizing x e with
  | zero =>
    obtain rfl := Option.some.inj h
    decide
  | succ n ih =>
    unfold scale at h
    dsimp only at h
    split_ifs at h with hsmall he hfin hzero
    · obtain rfl := Option.some.inj h
      exact hfin
    · obtain rfl := Option.some.inj h
      exact Binary64.isFinite_div_power hx hsmall
    · obtain rfl := Option.some.inj h
      exact hx
    · exact ih (Binary64.isFinite_div_power hx le_rfl) h

/-- A number that a text can denote: a whole one of limited size or a finite binary one. -/
def Scalar.Finite : Scalar → Prop
  | .whole i => i.natAbs < 2 ^ 64
  | .real x => x.isFinite

theorem absorb_lt {significand : ℕ} (h : significand < UInt64.size) (ds : List ℕ) :
    (absorb significand ds).1 < UInt64.size := by
  induction ds generalizing significand with
  | nil => exact h
  | cons d ds ih =>
    unfold absorb
    split_ifs with hfits
    · exact ih hfits
    · exact h

theorem finite_signed {x : Binary64} (hx : x.isFinite) (negative : Bool) :
    (Scalar.real (signed negative x)).Finite := by
  cases negative with
  | false => exact hx
  | true => exact (Binary64.isFinite_negate x).trans hx

theorem finite_value {n : Numeral} {x : Scalar} (h : n.value = some x) : x.Finite := by
  unfold Numeral.value at h
  rcases hwhole : absorb 0 n.whole with ⟨significand, left⟩
  have hsig : significand < 2 ^ 64 := by
    have := absorb_lt (by decide : 0 < UInt64.size) n.whole
    rwa [hwhole] at this
  have hnat := Binary64.isFinite_ofRatio_nat false hsig
  rw [hwhole] at h
  dsimp only at h
  split at h
  next =>
    split_ifs at h with hleft hpositive hlarge
    · obtain rfl := Option.some.inj h
      exact hsig
    · obtain rfl := Option.some.inj h
      exact finite_signed hnat true
    · obtain rfl := Option.some.inj h
      simpa [Scalar.Finite] using hsig
    · obtain ⟨y, hy, rfl⟩ := Option.map_eq_some_iff.1 h
      exact finite_signed (isFinite_scale hnat hy) n.negative
  next =>
    rcases hfraction : absorb significand (n.fraction.getD []) with ⟨significand', unread⟩
    have hsig' : significand' < 2 ^ 64 := by
      have := absorb_lt hsig (n.fraction.getD [])
      rwa [hfraction] at this
    simp only [hfraction] at h
    split_ifs at h with hexp hlarge
    · obtain rfl := Option.some.inj h
      exact finite_signed (by decide) n.negative
    · obtain ⟨y, hy, rfl⟩ := Option.map_eq_some_iff.1 h
      exact finite_signed (isFinite_scale (Binary64.isFinite_ofRatio_nat false hsig') hy) n.negative

end Number

end CodeHealth
