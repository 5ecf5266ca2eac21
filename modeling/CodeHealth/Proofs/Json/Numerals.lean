import CodeHealth.Proofs.Json.Opening
import CodeHealth.Proofs.Json.Spelled
import Mathlib

/-! The texts of binary numbers. They consist of digits, points, exponents and signs, whatever the
layout is; so one that is read as a number at all is read as a single token. -/

namespace CodeHealth.Json

open Number
open Token (isNumeral first numeral ofChars Numeric)

/-! ### Characters -/

theorem all_digits (n : ℕ) : (digits n).all isNumeral = true := by
  rw [List.all_eq_true]
  intro c hc
  exact Token.isNumeral_of_isDecimal (isDecimal_of_mem_toDigits hc)

theorem all_layout (style : PointRange) (d : ℕ) (e : ℤ) :
    (layout style d e).all isNumeral = true := by
  have hds := List.all_eq_true.1 (all_digits d)
  have htake (n : ℕ) : ((digits d).take n).all isNumeral = true :=
    List.all_eq_true.2 fun c hc => hds c (List.mem_of_mem_take hc)
  have hdrop (n : ℕ) : ((digits d).drop n).all isNumeral = true :=
    List.all_eq_true.2 fun c hc => hds c (List.mem_of_mem_drop hc)
  have hzeros (n : ℕ) : (zeros n).all isNumeral = true :=
    List.all_eq_true.2 fun c hc => List.eq_of_mem_replicate hc ▸ rfl
  have hmarks : isNumeral '.' ∧ isNumeral 'e' ∧ isNumeral '-' ∧ isNumeral '+' ∧ isNumeral '0' := by
    decide
  unfold layout
  dsimp only
  split_ifs
  all_goals
    simp only [List.all_append, List.all_cons, List.all_nil, htake, hdrop, hzeros, all_digits,
      hmarks, Bool.and_true]

theorem all_write? {f : Format} {style : PointRange} {r : Reading} {cs : List Char}
    (h : write? f style r = some cs) : cs.all isNumeral = true := by
  unfold write? at h
  split at h
  · rename_i negative m q
    have hsign : (if negative then ['-'] else []).all isNumeral = true := by
      cases negative <;> decide
    dsimp only at h
    by_cases hm : m = 0
    · rw [if_pos hm] at h
      cases h
      rw [List.all_append, hsign]
      rfl
    · rw [if_neg hm] at h
      cases h
      rw [List.all_append, hsign, all_layout]
      rfl
  · contradiction

/-! ### Tokens -/

section

variable {negative : Bool} {cs r : List Char}

theorem suffix_of_wholeDigits {p : List Char × List Char} (h : Token.wholeDigits cs = some p) :
    p.2 <:+ cs := by
  unfold Token.wholeDigits at h
  split at h <;> cases h
  exact List.dropWhile_suffix _

theorem suffix_of_fractionDigits {p : Option (List ℕ) × List Char}
    (h : Token.fractionDigits cs = some p) : p.2 <:+ cs := by
  unfold Token.fractionDigits at h
  split at h
  · split at h <;> cases h
    exact (List.dropWhile_suffix _).trans (List.suffix_cons _ _)
  · cases h
    exact List.suffix_rfl

theorem suffix_of_unsignedExponent {p : Option ℤ × List Char}
    (h : Token.unsignedExponent negative cs = some p) : p.2 <:+ cs := by
  unfold Token.unsignedExponent at h
  split at h <;> cases h
  exact List.dropWhile_suffix _

theorem suffix_of_exponent {p : Option ℤ × List Char} (h : Token.exponent cs = some p) :
    p.2 <:+ cs := by
  unfold Token.exponent at h
  split at h
  · split_ifs at h
    · refine List.IsSuffix.trans ?_ (List.suffix_cons _ _)
      split at h
      · exact (suffix_of_unsignedExponent h).trans (List.suffix_cons _ _)
      · exact (suffix_of_unsignedExponent h).trans (List.suffix_cons _ _)
      · exact suffix_of_unsignedExponent h
    · cases h
      exact List.suffix_rfl
  · cases h
    exact List.suffix_rfl

/-- A numeral is read from the front of a text. -/
theorem suffix_of_numeral {tok : Token} (h : numeral negative cs = some (tok, r)) : r <:+ cs := by
  simp only [numeral, Option.bind_eq_bind, Option.bind_eq_some_iff, Option.some.injEq,
    Prod.mk.injEq] at h
  obtain ⟨whole, hwhole, fraction, hfraction, exponent, hexponent, -, rfl⟩ := h
  calc exponent.2
    _ <:+ fraction.2 := suffix_of_exponent hexponent
    _ <:+ whole.2 := suffix_of_fractionDigits hfraction
    _ <:+ cs := suffix_of_wholeDigits hwhole

end

/-- Only a number begins with a character of numerals. -/
theorem number_of_first {c : Char} {cs r : List Char} {tok : Token} (hc : isNumeral c)
    (h : first (c :: cs) = some (tok, r)) :
    ∃ x, tok = .number x ∧ Numeric (c :: cs) ∧ r <:+ c :: cs := by
  by_cases hminus : c = '-'
  · subst hminus
    obtain ⟨x, hx⟩ := Token.number_of_numeral h
    exact ⟨x, hx, ⟨'-', rfl, .inl rfl⟩, (suffix_of_numeral h).trans (List.suffix_cons _ _)⟩
  · rw [Token.first_of_isNumeral hc hminus] at h
    obtain ⟨x, hx⟩ := Token.number_of_numeral h
    refine ⟨x, hx, ⟨c, rfl, .inr ?_⟩, suffix_of_numeral h⟩
    by_contra hdigit
    simp [numeral, Token.wholeDigits, hdigit] at h

/-- A text of numeral characters that is read as a number is a single token. -/
theorem isNumber_of_read {cs : List Char} (hcs : cs.all isNumeral = true) {x : Option Scalar}
    (h : Tree.read (String.ofList cs) = some (.number x)) : IsNumber cs := by
  obtain ⟨toks, htoks, htree⟩ := Option.bind_eq_some_iff.1 h
  rw [String.toList_ofList] at htoks
  cases cs with
  | nil =>
    cases htoks
    cases htree
  | cons c ds =>
    obtain ⟨hc, hds⟩ : isNumeral c = true ∧ ds.all isNumeral = true := by simpa using hcs
    have hdrop : (c :: ds).dropWhile Token.isSpace = c :: ds :=
      List.dropWhile_cons_of_neg (by simp [Token.isSpace_of_isNumeral hc])
    rw [ofChars, List.length_cons, Token.scan_succ hdrop] at htoks
    obtain ⟨⟨tok, r⟩, hfirst, hrest⟩ := Option.bind_eq_some_iff.1 htoks
    obtain ⟨more, hscan, rfl⟩ := Option.map_eq_some_iff.1 hrest
    obtain ⟨y, rfl, hnumeric, hsuffix⟩ := number_of_first hc hfirst
    -- a number is over at once, so nothing but spaces can follow; and there are none in the text
    obtain ⟨q, hrun, -⟩ := Option.bind_eq_some_iff.1 htree
    rw [Tree.run_cons rfl] at hrun
    obtain ⟨rfl, -⟩ := Tree.nil_of_run hrun
    have hspaces : r.dropWhile Token.isSpace = [] := Token.dropWhile_of_scan_nil hscan
    have hr : r = [] := by
      cases r with
      | nil => rfl
      | cons d r =>
        have hd : isNumeral d := List.all_eq_true.1 hcs d (hsuffix.subset List.mem_cons_self)
        rw [List.dropWhile_cons_of_neg (by simp [Token.isSpace_of_isNumeral hd])] at hspaces
        contradiction
    exact .inr ⟨hnumeric, y, hr ▸ hfirst⟩

end CodeHealth.Json
