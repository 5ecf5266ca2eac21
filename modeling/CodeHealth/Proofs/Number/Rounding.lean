import CodeHealth.Number.Binary
import Mathlib

/-! Rounding to a binary format. A magnitude that the format can represent is its own rounding,
and a magnitude that does not exceed the greatest finite one is rounded to a finite number. From
the first follows that a 32-bit number survives the way into 64 bits and back. -/

namespace CodeHealth.Number

open Format

/-! ### Scaling and rounding of fractions -/

theorem scaleByTwo_den_pos (num : ℕ) {den : ℕ} (k : ℤ) (hden : 0 < den) :
    0 < (scaleByTwo num den k).2 := by
  unfold scaleByTwo
  split_ifs
  · exact hden
  · exact Nat.mul_pos hden (Nat.pow_pos (by norm_num))

theorem scaleByTwo_ratio (num den : ℕ) (k : ℤ) :
    ((scaleByTwo num den k).1 : ℚ) / (scaleByTwo num den k).2 = num / den * 2 ^ k := by
  unfold scaleByTwo
  split_ifs with hk
  · have hpow : (2 : ℚ) ^ k = 2 ^ k.toNat := by
      rw [← zpow_natCast, Int.toNat_of_nonneg hk]
    simp only [Nat.pow_eq, Nat.cast_mul, Nat.cast_pow, Nat.cast_ofNat, hpow]
    ring
  · have hpow : (2 : ℚ) ^ k = (2 ^ (-k).toNat)⁻¹ := by
      rw [← zpow_natCast, Int.toNat_of_nonneg (by omega), ← zpow_neg, neg_neg]
    simp only [Nat.pow_eq, Nat.cast_mul, Nat.cast_pow, Nat.cast_ofNat, hpow]
    field_simp

theorem roundHalfEven_mul (m : ℕ) {den : ℕ} (hden : 0 < den) :
    roundHalfEven (m * den) den = m := by
  unfold roundHalfEven
  simp [Nat.mul_div_cancel _ hden, hden]

theorem roundHalfEven_le {num den bound : ℕ} (hden : 0 < den) (h : num ≤ bound * den) :
    roundHalfEven num den ≤ bound := by
  have hdiv : num / den ≤ bound := Nat.div_le_of_le_mul (by rwa [Nat.mul_comm])
  rcases hdiv.lt_or_eq with hlt | heq
  · unfold roundHalfEven
    dsimp only
    split_ifs <;> omega
  · -- the quotient is the bound itself, so nothing is left over
    have hsum := Nat.div_add_mod num den
    have hmod : num % den = 0 := by
      rw [heq, Nat.mul_comm] at hsum
      omega
    unfold roundHalfEven
    simp [hmod, hden, heq]

/-- A bound on a number is a bound on its rounding at any exponent. -/
theorem roundHalfEven_scaleByTwo_le {num den bound : ℕ} {q : ℤ} (hden : 0 < den)
    (h : (num : ℚ) / den ≤ bound * 2 ^ q) :
    roundHalfEven (scaleByTwo num den (-q)).1 (scaleByTwo num den (-q)).2 ≤ bound := by
  have hpos := scaleByTwo_den_pos num (-q) hden
  have hpos' : (0 : ℚ) < (scaleByTwo num den (-q)).2 := by exact_mod_cast hpos
  have hscaled : ((scaleByTwo num den (-q)).1 : ℚ) / (scaleByTwo num den (-q)).2 ≤ bound := by
    rw [scaleByTwo_ratio, zpow_neg, ← div_eq_mul_inv, div_le_iff₀ (by positivity)]
    exact h
  rw [div_le_iff₀ hpos'] at hscaled
  exact roundHalfEven_le hpos (by exact_mod_cast hscaled)

/-! ### The exponent -/

/-- The estimate by bit lengths, corrected once, is the exponent of the leading bit. -/
def leading (num den : ℕ) : ℤ :=
  let t : ℤ := (num.log2 : ℤ) - den.log2
  let scaled := scaleByTwo num den (-t)
  if scaled.2 ≤ scaled.1 then t else t - 1

theorem le_div_iff_scaled {num den : ℕ} (hden : 0 < den) (t : ℤ) :
    (scaleByTwo num den (-t)).2 ≤ (scaleByTwo num den (-t)).1 ↔ (2 : ℚ) ^ t ≤ num / den := by
  have hpos : (0 : ℚ) < (scaleByTwo num den (-t)).2 := by
    exact_mod_cast scaleByTwo_den_pos num (-t) hden
  have htwo : (0 : ℚ) < 2 ^ t := by positivity
  rw [← Nat.cast_le (α := ℚ), ← one_le_div hpos, scaleByTwo_ratio, zpow_neg, ← div_eq_mul_inv,
    one_le_div htwo]

theorem two_pow_log2_le {n : ℕ} (hn : 0 < n) : (2 : ℚ) ^ (n.log2 : ℤ) ≤ n := by
  rw [zpow_natCast]
  exact_mod_cast Nat.log2_self_le hn.ne'

theorem lt_two_pow_log2 (n : ℕ) : (n : ℚ) < 2 ^ ((n.log2 : ℤ) + 1) := by
  rw [show ((n.log2 : ℤ) + 1) = ((n.log2 + 1 : ℕ) : ℤ) by push_cast; rfl, zpow_natCast]
  exact_mod_cast Nat.lt_log2_self

theorem leading_spec {num den : ℕ} (hnum : 0 < num) (hden : 0 < den) :
    (2 : ℚ) ^ leading num den ≤ num / den ∧ (num : ℚ) / den < 2 ^ (leading num den + 1) := by
  have hd : (0 : ℚ) < den := by exact_mod_cast hden
  have hn : (0 : ℚ) < num := by exact_mod_cast hnum
  set t : ℤ := (num.log2 : ℤ) - den.log2 with ht
  have hupper : (num : ℚ) / den < 2 ^ (t + 1) := by
    rw [div_lt_iff₀ hd]
    calc (num : ℚ) < 2 ^ ((num.log2 : ℤ) + 1) := lt_two_pow_log2 num
      _ = 2 ^ (t + 1) * 2 ^ (den.log2 : ℤ) := by
        rw [← zpow_add₀ (by norm_num)]; congr 1; omega
      _ ≤ 2 ^ (t + 1) * den := by gcongr; exact two_pow_log2_le hden
  have hlower : (2 : ℚ) ^ (t - 1) ≤ num / den := by
    rw [le_div_iff₀ hd]
    calc (2 : ℚ) ^ (t - 1) * den ≤ 2 ^ (t - 1) * 2 ^ ((den.log2 : ℤ) + 1) := by
          gcongr; exact (lt_two_pow_log2 den).le
      _ = 2 ^ (num.log2 : ℤ) := by rw [← zpow_add₀ (by norm_num)]; congr 1; omega
      _ ≤ num := two_pow_log2_le hnum
  unfold leading
  rw [← ht]
  dsimp only
  split_ifs with h
  · exact ⟨(le_div_iff_scaled hden t).1 h, hupper⟩
  · refine ⟨hlower, ?_⟩
    rw [sub_add_cancel]
    exact lt_of_not_ge fun hle => h ((le_div_iff_scaled hden t).2 hle)

theorem cast_two_pow (n : ℕ) : ((2 ^ n : ℕ) : ℚ) = 2 ^ (n : ℤ) := by
  rw [zpow_natCast]
  push_cast
  rfl

theorem leading_lt {num den m p : ℕ} {q : ℤ} (hnum : 0 < num) (hden : 0 < den)
    (hm : m < 2 ^ p) (hv : (num : ℚ) / den ≤ m * 2 ^ q) : leading num den < p + q := by
  have hfits : (m : ℚ) < 2 ^ (p : ℤ) := by
    rw [← cast_two_pow]
    exact_mod_cast hm
  rw [← zpow_lt_zpow_iff_right₀ (by norm_num : (1 : ℚ) < 2)]
  calc (2 : ℚ) ^ leading num den ≤ m * 2 ^ q := (leading_spec hnum hden).1.trans hv
    _ < 2 ^ (p : ℤ) * 2 ^ q := by gcongr
    _ = 2 ^ ((p : ℤ) + q) := (zpow_add₀ (by norm_num) _ _).symm

theorem le_leading {num den m p : ℕ} {q : ℤ} (hnum : 0 < num) (hden : 0 < den)
    (hm : 2 ^ p ≤ m) (hv : (m : ℚ) * 2 ^ q ≤ num / den) : p + q ≤ leading num den := by
  have hfull : (2 : ℚ) ^ (p : ℤ) ≤ m := by
    rw [← cast_two_pow]
    exact_mod_cast hm
  rw [← Int.lt_add_one_iff, ← zpow_lt_zpow_iff_right₀ (by norm_num : (1 : ℚ) < 2)]
  calc (2 : ℚ) ^ ((p : ℤ) + q) = 2 ^ (p : ℤ) * 2 ^ q := zpow_add₀ (by norm_num) _ _
    _ ≤ m * 2 ^ q := by gcongr
    _ < 2 ^ (leading num den + 1) := hv.trans_lt (leading_spec hnum hden).2

/-! ### Numbers of a format -/

/-- The exponent of two of the greatest finite numbers. -/
def greatest (f : Format) : ℤ := f.least + f.top - 2

/-- The format has the number `m · 2^q` in this very form. -/
structure Represents (f : Format) (m : ℕ) (q : ℤ) : Prop where
  lower : f.least ≤ q
  upper : q ≤ greatest f
  fits : m < 2 ^ (f.fraction + 1)
  normal : 2 ^ f.fraction ≤ m ∨ q = f.least

/-- The bits of the magnitude `m · 2^q`. -/
def pack (f : Format) (m : ℕ) (q : ℤ) : ℕ := (q - f.least).toNat * 2 ^ f.fraction + m

variable {f : Format} {m num den : ℕ} {q : ℤ}

theorem pack_lt_infinity (h : Represents f m q) : pack f m q < f.infinity := by
  have hq : (q - f.least).toNat + 2 ≤ f.top := by
    have := h.upper
    have := h.lower
    unfold greatest at *
    omega
  have hfits := h.fits
  rw [pow_succ] at hfits
  calc pack f m q < (q - f.least).toNat * 2 ^ f.fraction + 2 ^ f.fraction * 2 := by
        unfold pack; omega
    _ = ((q - f.least).toNat + 2) * 2 ^ f.fraction := by ring
    _ ≤ f.infinity := Nat.mul_le_mul_right _ hq

theorem nearest_of_pos (f : Format) (hnum : 0 < num) :
    nearest f num den =
      let q := max (leading num den - f.fraction) f.least
      let x := scaleByTwo num den (-q)
      min f.infinity ((q - f.least).toNat * 2 ^ f.fraction + roundHalfEven x.1 x.2) := by
  unfold nearest leading
  rw [if_neg hnum.ne']
  rfl

/-- The exponent that rounding chooses for a number that the format has is the number's own. -/
theorem exponent_of_represents (h : Represents f m q) (hnum : 0 < num) (hden : 0 < den)
    (hv : (num : ℚ) / den = m * 2 ^ q) : max (leading num den - f.fraction) f.least = q := by
  have hlt := leading_lt hnum hden h.fits hv.le
  have hlower := h.lower
  push_cast at hlt
  rcases h.normal with hnormal | hleast
  · have hle := le_leading hnum hden hnormal hv.ge
    omega
  · omega

/-- A number that the format has is its own rounding. -/
theorem nearest_exact (h : Represents f m q) (hden : 0 < den)
    (hv : (num : ℚ) / den = m * 2 ^ q) : nearest f num den = pack f m q := by
  have hd : (den : ℚ) ≠ 0 := by exact_mod_cast hden.ne'
  rcases Nat.eq_zero_or_pos num with rfl | hnum
  · have hm : m = 0 := by
      have hzero : (m : ℚ) * 2 ^ q = 0 := by rw [← hv]; simp
      simpa using (mul_eq_zero.1 hzero).resolve_right (by positivity)
    have hq : q = f.least := h.normal.resolve_left (by simp [hm])
    simp [nearest, pack, hm, hq]
  · rw [nearest_of_pos f hnum]
    dsimp only
    rw [exponent_of_represents h hnum hden hv]
    have hpos := scaleByTwo_den_pos num (-q) hden
    have hx : (scaleByTwo num den (-q)).1 = m * (scaleByTwo num den (-q)).2 := by
      have hpos' : ((scaleByTwo num den (-q)).2 : ℚ) ≠ 0 := by exact_mod_cast hpos.ne'
      have hratio := scaleByTwo_ratio num den (-q)
      rw [hv, mul_assoc, ← zpow_add₀ (by norm_num), add_neg_cancel, zpow_zero, mul_one,
        div_eq_iff hpos'] at hratio
      exact_mod_cast hratio
    rw [hx, roundHalfEven_mul m hpos]
    exact min_eq_right (pack_lt_infinity h).le

theorem infinity_eq (htop : 2 ≤ f.top) :
    f.infinity = (f.top - 2) * 2 ^ f.fraction + 2 ^ (f.fraction + 1) := by
  rw [infinity, Nat.pow_eq, pow_succ, Nat.mul_comm (2 ^ f.fraction) 2, ← Nat.add_mul]
  congr 1
  omega

/-- A magnitude up to the greatest finite one is not rounded up to infinity. -/
theorem nearest_lt_infinity (htop : 2 ≤ f.top) (hden : 0 < den)
    (hv : (num : ℚ) / den ≤ (2 ^ (f.fraction + 1) - 1 : ℕ) * 2 ^ greatest f) :
    nearest f num den < f.infinity := by
  have hinf := infinity_eq htop
  have hpos : 0 < 2 ^ (f.fraction + 1) := by positivity
  rcases Nat.eq_zero_or_pos num with rfl | hnum
  · rw [nearest, if_pos rfl]
    omega
  have hlead := leading_lt hnum hden (Nat.sub_lt hpos one_pos) hv
  push_cast at hlead
  set q := max (leading num den - f.fraction) f.least with hq
  have hgreatest : f.least ≤ greatest f := by unfold greatest; omega
  have hqle : q ≤ greatest f := by omega
  rw [nearest_of_pos f hnum]
  dsimp only
  rw [← hq]
  refine (min_le_right _ _).trans_lt ?_
  rcases hqle.lt_or_eq with hlt | heq
  · -- below the last exponent there is room for a carry
    have hbound : (num : ℚ) / den ≤ (2 ^ (f.fraction + 1) : ℕ) * 2 ^ q := by
      have hexp : leading num den + 1 ≤ ((f.fraction + 1 : ℕ) : ℤ) + q := by push_cast; omega
      calc (num : ℚ) / den ≤ 2 ^ (leading num den + 1) := (leading_spec hnum hden).2.le
        _ ≤ 2 ^ (((f.fraction + 1 : ℕ) : ℤ) + q) := zpow_le_zpow_right₀ (by norm_num) hexp
        _ = (2 ^ (f.fraction + 1) : ℕ) * 2 ^ q := by
          rw [zpow_add₀ (by norm_num), cast_two_pow]
    have hcarry := roundHalfEven_scaleByTwo_le hden hbound
    have hexp : (q - f.least).toNat + 1 ≤ f.top - 2 := by unfold greatest at hlt; omega
    have hmul := Nat.mul_le_mul_right (2 ^ f.fraction) hexp
    rw [Nat.add_mul, Nat.one_mul] at hmul
    have hP : 0 < 2 ^ f.fraction := by positivity
    omega
  · have hfits := roundHalfEven_scaleByTwo_le hden (heq ▸ hv)
    have hexp : (q - f.least).toNat = f.top - 2 := by rw [heq]; unfold greatest; omega
    rw [hexp]
    omega

/-! ### Reading the bits -/

theorem two_pow_exponent (f : Format) : 2 ^ f.exponent = f.top + 1 := by
  have : 0 < 2 ^ f.exponent := by positivity
  unfold top
  rw [Nat.pow_eq]
  omega

theorem signBit_eq (f : Format) : f.signBit = 2 ^ f.fraction * (f.top + 1) := by
  rw [signBit, Nat.pow_eq, pow_add, two_pow_exponent]

theorem withSign_fields (negative : Bool) {magnitude : ℕ} (h : magnitude < f.signBit) :
    (withSign f negative magnitude / f.signBit % 2 == 1) = negative ∧
    withSign f negative magnitude / 2 ^ f.fraction % 2 ^ f.exponent =
      magnitude / 2 ^ f.fraction ∧
    withSign f negative magnitude % 2 ^ f.fraction = magnitude % 2 ^ f.fraction := by
  have hP : 0 < 2 ^ f.fraction := by positivity
  have hsign : f.signBit = 2 ^ f.fraction * 2 ^ f.exponent := by
    rw [signBit_eq, two_pow_exponent]
  have hfield : magnitude / 2 ^ f.fraction < 2 ^ f.exponent :=
    Nat.div_lt_of_lt_mul (hsign ▸ h)
  cases negative with
  | false => simp [withSign, Nat.div_eq_of_lt h, Nat.mod_eq_of_lt hfield]
  | true =>
    simp only [withSign, ↓reduceIte]
    refine ⟨?_, ?_, ?_⟩
    · rw [Nat.add_div_left _ (by omega), Nat.div_eq_of_lt h]
      rfl
    · rw [hsign, Nat.mul_add_div hP, Nat.add_mod_left, Nat.mod_eq_of_lt hfield]
    · rw [hsign, Nat.mul_add_mod]

theorem infinity_lt_signBit (f : Format) : f.infinity < f.signBit := by
  have hP : 0 < 2 ^ f.fraction := by positivity
  rw [signBit_eq, infinity, Nat.pow_eq, Nat.mul_comm]
  exact Nat.mul_lt_mul_of_pos_left (Nat.lt_succ_self _) hP

/-- A magnitude below infinity is read as a finite number. -/
theorem read_withSign (negative : Bool) {magnitude : ℕ} (h : magnitude < f.infinity) :
    read f (withSign f negative magnitude) =
      if magnitude / 2 ^ f.fraction = 0 then
        .finite negative (magnitude % 2 ^ f.fraction) f.least
      else
        .finite negative (2 ^ f.fraction + magnitude % 2 ^ f.fraction)
          (f.least + (magnitude / 2 ^ f.fraction - 1 : ℕ)) := by
  have hfield : magnitude / 2 ^ f.fraction < f.top := Nat.div_lt_of_lt_mul (by
    rw [Nat.mul_comm]; exact h)
  obtain ⟨hneg, he, hm⟩ := withSign_fields negative (h.trans (infinity_lt_signBit f))
  unfold read
  simp only [Nat.pow_eq, hneg, he, hm]
  rw [if_neg hfield.ne]

theorem read_finite_iff (bits : ℕ) :
    (∃ negative m q, read f bits = .finite negative m q) ↔
      bits / 2 ^ f.fraction % 2 ^ f.exponent ≠ f.top := by
  unfold read
  simp only [Nat.pow_eq]
  split_ifs with htop hrest hzero
  · simp [htop]
  · simp [htop]
  · simpa using htop
  · simpa using htop

theorem read_pack (negative : Bool) (h : Represents f m q) :
    read f (withSign f negative (pack f m q)) = .finite negative m q := by
  have hP : 0 < 2 ^ f.fraction := by positivity
  have hlower := h.lower
  have hfits := h.fits
  rw [pow_succ] at hfits
  rw [read_withSign negative (pack_lt_infinity h)]
  by_cases hm : m < 2 ^ f.fraction
  · -- a subnormal number is packed as it is
    have hq : q = f.least := h.normal.resolve_left (by omega)
    have hpack : pack f m q = m := by simp [pack, hq]
    rw [hpack, Nat.div_eq_of_lt hm, if_pos rfl, Nat.mod_eq_of_lt hm, hq]
  · -- the leading bit of a normal one raises the exponent field by one
    have hpack : pack f m q =
        (m - 2 ^ f.fraction) + 2 ^ f.fraction * ((q - f.least).toNat + 1) := by
      unfold pack
      rw [Nat.mul_add, Nat.mul_comm (2 ^ f.fraction) (q - f.least).toNat]
      omega
    have hrest : m - 2 ^ f.fraction < 2 ^ f.fraction := by omega
    have hdiv : pack f m q / 2 ^ f.fraction = (q - f.least).toNat + 1 := by
      rw [hpack, Nat.add_mul_div_left _ _ hP, Nat.div_eq_of_lt hrest, Nat.zero_add]
    have hmod : pack f m q % 2 ^ f.fraction = m - 2 ^ f.fraction := by
      rw [hpack, Nat.add_mul_mod_self_left, Nat.mod_eq_of_lt hrest]
    rw [hdiv, hmod, if_neg (Nat.succ_ne_zero _)]
    congr 1 <;> omega

/-- The bits of a finite number are those of its reading. -/
theorem represents_of_read (htop : 2 ≤ f.top) {bits : ℕ} {negative : Bool}
    (hbits : bits < 2 * f.signBit) (h : read f bits = .finite negative m q) :
    Represents f m q ∧ bits = withSign f negative (pack f m q) := by
  have hP : 0 < 2 ^ f.fraction := by positivity
  set e := bits / 2 ^ f.fraction % 2 ^ f.exponent with he
  set r := bits % 2 ^ f.fraction with hr
  have hsum : bits = f.signBit * (bits / f.signBit) + (e * 2 ^ f.fraction + r) := by
    have hlow := Nat.div_add_mod bits (2 ^ f.fraction)
    have hhigh := Nat.div_add_mod (bits / 2 ^ f.fraction) (2 ^ f.exponent)
    rw [Nat.div_div_eq_div_mul, ← he] at hhigh
    rw [signBit_eq, ← two_pow_exponent]
    calc bits = 2 ^ f.fraction * (bits / 2 ^ f.fraction) + r := hlow.symm
      _ = 2 ^ f.fraction *
          (2 ^ f.exponent * (bits / (2 ^ f.fraction * 2 ^ f.exponent)) + e) + r := by rw [hhigh]
      _ = _ := by ring
  have hmod : r < 2 ^ f.fraction := Nat.mod_lt bits hP
  have hetop : e < f.top + 1 := by
    rw [← two_pow_exponent]
    exact Nat.mod_lt _ (by positivity)
  have hwith : bits = withSign f (bits / f.signBit % 2 == 1) (e * 2 ^ f.fraction + r) := by
    have hlt : bits / f.signBit < 2 := Nat.div_lt_of_lt_mul (by rwa [Nat.mul_comm])
    rcases Nat.le_one_iff_eq_zero_or_eq_one.1 (Nat.lt_succ_iff.1 hlt) with hs | hs
    · rw [hs] at hsum ⊢
      simpa [withSign] using hsum
    · rw [hs] at hsum ⊢
      simpa [withSign] using hsum
  unfold read at h
  simp only [Nat.pow_eq, ← he, ← hr] at h
  split_ifs at h with h₁ h₂ h₃
  · -- a subnormal number
    obtain ⟨hneg, rfl, rfl⟩ := Reading.finite.inj h
    refine ⟨⟨le_rfl, by unfold greatest; omega, by rw [pow_succ]; omega, .inr rfl⟩, ?_⟩
    rw [hwith, hneg, h₃]
    simp [pack]
  · -- a normal number
    obtain ⟨hneg, rfl, rfl⟩ := Reading.finite.inj h
    refine ⟨⟨by omega, by unfold greatest; omega, by rw [pow_succ]; omega, .inl (by omega)⟩, ?_⟩
    rw [hwith, hneg]
    congr 1
    have hfield : (f.least + ((e - 1 : ℕ) : ℤ) - f.least).toNat = e - 1 := by omega
    obtain ⟨e', he'⟩ : ∃ e', e = e' + 1 := Nat.exists_eq_succ_of_ne_zero h₃
    rw [pack, hfield, he', Nat.add_sub_cancel, Nat.add_mul]
    omega

end CodeHealth.Number
