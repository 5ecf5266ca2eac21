import CodeHealth.Billing
import CodeHealth.Proofs.Number.Digits
import Mathlib

/-! Amounts of money as invoices show them. An amount is written with a sign, digits and a currency,
and what is written determines the cents: the text that an invoice shows is the only one of its form
that stands for the cents of the invoice, from the least number of 64 bits to the greatest. -/

namespace CodeHealth

open Number (isDecimal isDecimal_iff ofDecimals Plain)

/-- An amount as it is written: a minus sign or none, a dollar sign, whole dollars, a point, two
digits for the cents, a space and the currency. -/
@[ext] structure Amount where
  negative : Bool
  dollars : List Char
  tens : Char
  ones : Char
  currency : String
  plain_dollars : Plain dollars
  isDecimal_tens : isDecimal tens
  isDecimal_ones : isDecimal ones

namespace Amount

def text (a : Amount) : String :=
  String.ofList ((if a.negative then ['-'] else []) ++ '$' :: (a.dollars ++
    '.' :: a.tens :: a.ones :: ' ' :: a.currency.toList))

/-- What the digits stand for, in cents. -/
def cents (a : Amount) : ℕ := 100 * ofDecimals a.dollars + ofDecimals [a.tens, a.ones]

/-- What the sign and the digits stand for, in cents. -/
def value (a : Amount) : ℤ := if a.negative then -a.cents else a.cents

theorem natAbs_value (a : Amount) : a.value.natAbs = a.cents := by
  unfold value
  split_ifs <;> omega

theorem takeWhile_dollars (a : Amount) (r : List Char) :
    (a.dollars ++ '.' :: r).takeWhile isDecimal = a.dollars := by
  rw [List.takeWhile_append_of_pos a.plain_dollars.isDecimal_of_mem,
    List.takeWhile_cons_of_neg (by decide), List.append_nil]

/-- An amount is read off its text. -/
theorem text_injective : Function.Injective text := by
  intro a b h
  have hchars := String.ofList_injective h
  have hnegative : a.negative = b.negative := by
    cases ha : a.negative <;> cases hb : b.negative <;> simp [ha, hb] at hchars ⊢
  rw [hnegative] at hchars
  have hamount := (List.cons.inj (List.append_cancel_left hchars)).2
  -- the dollars end at the first character that is no digit, the point
  have hdollars : a.dollars = b.dollars := by
    simpa only [takeWhile_dollars] using congrArg (List.takeWhile isDecimal) hamount
  rw [hdollars] at hamount
  have hrest := List.append_cancel_left hamount
  simp only [List.cons.injEq, true_and, String.toList_inj] at hrest
  obtain ⟨htens, hones, hcurrency⟩ := hrest
  exact Amount.ext hnegative hdollars htens hones hcurrency

/-- Amounts with the same sign and currency that stand for the same are written the same. -/
theorem eq_of_value_eq {a b : Amount} (hnegative : a.negative = b.negative)
    (hcurrency : a.currency = b.currency) (hvalue : a.value = b.value) : a = b := by
  have hcents : a.cents = b.cents := by rw [← natAbs_value, hvalue, natAbs_value]
  simp only [cents, Number.ofDecimals_pair] at hcents
  have hatens := (isDecimal_iff _).1 a.isDecimal_tens
  have haones := (isDecimal_iff _).1 a.isDecimal_ones
  have hbtens := (isDecimal_iff _).1 b.isDecimal_tens
  have hbones := (isDecimal_iff _).1 b.isDecimal_ones
  -- two digits stand for less than a dollar, so each part is a quotient or a remainder of the cents
  have hdollars : ofDecimals a.dollars = ofDecimals b.dollars := by omega
  have htens : a.tens.toNat = b.tens.toNat := by omega
  have hones : a.ones.toNat = b.ones.toNat := by omega
  exact Amount.ext hnegative (a.plain_dollars.eq_of_ofDecimals_eq b.plain_dollars hdollars)
    (Char.toNat_inj.1 htens) (Char.toNat_inj.1 hones) hcurrency

/-- So many cents, as they are written. -/
def ofCents (i : ℤ) (currency : String) : Amount where
  negative := i < 0
  dollars := Nat.toDigits 10 (i.natAbs / 100)
  tens := Nat.digitChar (i.natAbs % 100 / 10)
  ones := Nat.digitChar (i.natAbs % 100 % 10)
  currency := currency
  plain_dollars := Number.plain_toDigits _
  isDecimal_tens := Number.isDecimal_digitChar (by omega)
  isDecimal_ones := Number.isDecimal_digitChar (by omega)

theorem cents_ofCents (i : ℤ) (currency : String) : (ofCents i currency).cents = i.natAbs := by
  have htens : i.natAbs % 100 / 10 < 10 := by omega
  have hones : i.natAbs % 100 % 10 < 10 := by omega
  simp only [cents, ofCents, Number.ofDecimals_toDigits, Number.ofDecimals_pair,
    Nat.toNat_digitChar_sub_48_of_lt_ten htens, Nat.toNat_digitChar_sub_48_of_lt_ten hones]
  omega

theorem value_ofCents (i : ℤ) (currency : String) : (ofCents i currency).value = i := by
  rw [value, cents_ofCents]
  simp only [ofCents, decide_eq_true_eq]
  split_ifs <;> omega

end Amount

/-! ### Invoices -/

namespace Invoice

/-- A number below one hundred in two digits. -/
theorem toList_twoDigits {n : ℕ} (h : n < 100) :
    ((if n < 10 then "0" else "") ++ toString n).toList =
      [Nat.digitChar (n / 10), Nat.digitChar (n % 10)] := by
  rw [String.toList_append, Nat.toString_eq_repr, Nat.toList_repr]
  split_ifs with hlt
  · rw [Nat.toDigits_of_lt_base hlt, Nat.div_eq_of_lt hlt, Nat.mod_eq_of_lt hlt]
    rfl
  · rw [Nat.toDigits_of_base_le (by norm_num) (by omega), Nat.toDigits_of_lt_base (by omega)]
    rfl

theorem amount_eq_text (v : Invoice) :
    v.amount = (Amount.ofCents v.amountCents.toInt (Text.upper v.currency)).text := by
  have htwo := toList_twoDigits (Nat.mod_lt v.amountCents.toInt.natAbs (show 0 < 100 by norm_num))
  have hsign : (if v.amountCents < 0 then "-" else "").toList =
      if v.amountCents.toInt < 0 then ['-'] else [] := by
    simp only [Int64.lt_iff_toInt_lt, apply_ite String.toList]
    rfl
  simp only [← String.toList_inj, amount, Amount.text, Amount.ofCents, String.toList_ofList,
    String.toList_append, hsign, Nat.toString_eq_repr, Nat.toList_repr] at htwo ⊢
  simp [htwo]

/-- The amount of an invoice is written exactly. It has the form of an amount in one way; and of all
amounts it is that one whose value is the cents of the invoice, which has a minus sign just when they
are negative, and whose currency is that of the invoice in capitals. -/
theorem amount_tells_cents (v : Invoice) :
    (∃! a : Amount, a.text = v.amount) ∧
    ∀ a : Amount, a.text = v.amount ↔
      a.value = v.amountCents.toInt ∧ (a.negative ↔ v.amountCents < 0) ∧
      a.currency = Text.upper v.currency := by
  have hsign : v.amountCents < 0 ↔ v.amountCents.toInt < 0 := Int64.lt_iff_toInt_lt
  rw [amount_eq_text]
  refine ⟨⟨_, rfl, fun a h => Amount.text_injective h⟩, fun a => ⟨fun h => ?_, ?_⟩⟩
  · rw [Amount.text_injective h, Amount.value_ofCents, hsign]
    exact ⟨rfl, decide_eq_true_iff, rfl⟩
  · rintro ⟨hvalue, hnegative, hcurrency⟩
    refine congrArg Amount.text (Amount.eq_of_value_eq ?_ hcurrency ?_)
    · exact Bool.eq_iff_iff.2 ((hnegative.trans hsign).trans decide_eq_true_iff.symm)
    · rw [hvalue, Amount.value_ofCents]

example : (⟨"in_1", none, -5, "usd", "", none, none⟩ : Invoice).amount = "-$0.05 USD" := by
  decide +kernel

end Invoice

end CodeHealth
