import CodeHealth.Json.Token
import CodeHealth.Json.Writer
import CodeHealth.Proofs.Number.Digits
import Mathlib

/-! The tokens of written values. A quoted text is one token and denotes the text that was written,
whatever characters it holds; so does a whole number of 64 bits. What follows a numeral does not
change how it is read, unless it could belong to it. So a text that is put together of the texts of
tokens is read token by token, whatever spaces stand between them. -/

namespace CodeHealth.Json.Token

open Number

/-! ### Quoted texts -/

theorem hexValue_hexDigit {n : ℕ} (hn : n < 16) : hexValue (hexDigit n) = some n := by
  interval_cases n <;> rfl

/-- A code unit that is no half of a surrogate pair stands for the character of that number. -/
theorem join_code {a : ℕ} (ha : a < 0xD800) (es : List Element) :
    join (.code a :: es) = (join es).map (Char.ofNat a :: ·) := by
  have hlead : isLead a = false := by simp [isLead]; omega
  have htrail : isTrail a = false := by simp [isTrail]; omega
  cases es with
  | nil => simp [join, hlead, htrail]
  | cons e es =>
    cases e <;> simp [join, hlead, htrail]

theorem elements_char {c : Char} (hquote : c ≠ '"') (hslash : c ≠ '\\') (hc : ¬ c.toNat < 32)
    (r : List Char) : elements (c :: r) = (elements r).map fun p => (.char c :: p.1, p.2) := by
  rw [elements]
  · rw [if_neg hc]
    cases elements r <;> rfl
  · exact hquote
  · rintro a b d e s rfl
    contradiction
  · rintro e s rfl
    contradiction

theorem elements_short {e c : Char} (h : escaped e = some c) (r : List Char) :
    elements ('\\' :: e :: r) = (elements r).map fun p => (.char c :: p.1, p.2) := by
  rw [elements]
  · rw [h]
    cases elements r <;> rfl
  · rintro a b d f s rfl -
    cases h

theorem elements_unicode {c : Char} (h : c.toNat < 32) (r : List Char) :
    elements ('\\' :: 'u' :: '0' :: '0' ::
        hexDigit (c.toNat / 16) :: hexDigit (c.toNat % 16) :: r) =
      (elements r).map fun p => (.code c.toNat :: p.1, p.2) := by
  have hzero : hexValue '0' = some 0 := rfl
  have hdigits : 4096 * 0 + 256 * 0 + 16 * (c.toNat / 16) + c.toNat % 16 = c.toNat := by omega
  rw [elements, hzero, hexValue_hexDigit (by omega), hexValue_hexDigit (by omega)]
  simp only [Option.bind_eq_bind, Option.bind_some, hdigits]
  cases elements r <;> rfl

theorem eq_ofNat {c : Char} {n : ℕ} (h : c.toNat = n) : c = Char.ofNat n := by
  rw [← h, Char.ofNat_toNat]

/-- A character as it is written in a quoted text is one element, which stands for it. -/
theorem elements_escape (c : Char) : ∃ e,
    (∀ r, elements (escape c ++ r) = (elements r).map fun p => (e :: p.1, p.2)) ∧
    ∀ es cs, join es = some cs → join (e :: es) = some (c :: cs) := by
  have hchar (es : List Element) (cs : List Char) (h : join es = some cs) :
      join (.char c :: es) = some (c :: cs) := by rw [join, h]; rfl
  unfold escape
  split_ifs with hquote hslash hline hreturn htab hback hfeed hcontrol
  · exact ⟨.char c, fun r => by subst hquote; exact elements_short rfl r, hchar⟩
  · exact ⟨.char c, fun r => by subst hslash; exact elements_short rfl r, hchar⟩
  · exact ⟨.char c, fun r => by subst hline; exact elements_short rfl r, hchar⟩
  · exact ⟨.char c, fun r => by subst hreturn; exact elements_short rfl r, hchar⟩
  · exact ⟨.char c, fun r => by subst htab; exact elements_short rfl r, hchar⟩
  · exact ⟨.char c, fun r => elements_short (by rw [eq_ofNat hback]; rfl) r, hchar⟩
  · exact ⟨.char c, fun r => elements_short (by rw [eq_ofNat hfeed]; rfl) r, hchar⟩
  · refine ⟨.code c.toNat, fun r => elements_unicode hcontrol r, fun es cs h => ?_⟩
    rw [join_code (by omega), h, Char.ofNat_toNat]
    rfl
  · exact ⟨.char c, fun r => elements_char hquote hslash hcontrol r, hchar⟩

theorem elements_escapes (cs r : List Char) :
    ∃ es, elements (cs.flatMap escape ++ '"' :: r) = some (es, r) ∧ join es = some cs := by
  induction cs with
  | nil => exact ⟨[], rfl, rfl⟩
  | cons c cs ih =>
    obtain ⟨es, helements, hjoin⟩ := ih
    obtain ⟨e, hfirst, hstands⟩ := elements_escape c
    refine ⟨e :: es, ?_, hstands es cs hjoin⟩
    rw [List.flatMap_cons, List.append_assoc, hfirst, helements]
    rfl

/-- A text between quotes is one token, which denotes it. -/
theorem first_quote (s : String) (r : List Char) :
    first (quote s ++ r) = some (.text (some s), r) := by
  obtain ⟨es, helements, hjoin⟩ := elements_escapes s.toList r
  have hquote : quote s ++ r = '"' :: (s.toList.flatMap escape ++ '"' :: r) := by
    simp [quote]
  rw [hquote, first, quoted, helements, Option.map_some, hjoin, Option.map_some,
    String.ofList_toList]

/-! ### Numerals -/

/-- The characters of numerals. -/
def isNumeral (c : Char) : Bool :=
  isDecimal c || c == '.' || c == 'e' || c == 'E' || c == '+' || c == '-'

/-- No numeral goes on here. -/
def Ends (r : List Char) : Prop := ∀ c ∈ r.head?, isNumeral c = false

/-- What is read of a text, when `r` follows the text. -/
def followedBy {α : Type} (r : List Char) (p : Option (α × List Char)) : Option (α × List Char) :=
  p.map fun p => (p.1, p.2 ++ r)

section

variable {r : List Char} (hr : Ends r)
include hr

theorem takeWhile_append_of_ends (cs : List Char) :
    (cs ++ r).takeWhile isDecimal = cs.takeWhile isDecimal ∧
      (cs ++ r).dropWhile isDecimal = cs.dropWhile isDecimal ++ r := by
  induction cs with
  | nil =>
    cases r with
    | nil => exact ⟨rfl, rfl⟩
    | cons c r =>
      have hc := hr c rfl
      simp only [isNumeral, Bool.or_eq_false_iff] at hc
      simp [hc]
  | cons c cs ih =>
    cases hc : isDecimal c with
    | false => simp [hc]
    | true => simp [hc, ih]

theorem wholeDigits_append (cs : List Char) :
    wholeDigits (cs ++ r) = followedBy r (wholeDigits cs) := by
  obtain ⟨htake, hdrop⟩ := takeWhile_append_of_ends hr cs
  unfold wholeDigits
  rw [htake, hdrop]
  split <;> rfl

theorem fractionDigits_append (cs : List Char) :
    fractionDigits (cs ++ r) = followedBy r (fractionDigits cs) := by
  cases cs with
  | nil =>
    cases r with
    | nil => rfl
    | cons c r =>
      have hc := hr c rfl
      simp only [isNumeral, Bool.or_eq_false_iff, beq_eq_false_iff_ne] at hc
      simp [fractionDigits, followedBy, hc]
  | cons c cs =>
    by_cases hpoint : c = '.'
    · subst hpoint
      obtain ⟨htake, hdrop⟩ := takeWhile_append_of_ends hr cs
      simp only [fractionDigits, List.cons_append, htake, hdrop]
      split <;> rfl
    · simp [fractionDigits, followedBy, hpoint]

theorem unsignedExponent_append (negative : Bool) (cs : List Char) :
    unsignedExponent negative (cs ++ r) = followedBy r (unsignedExponent negative cs) := by
  obtain ⟨htake, hdrop⟩ := takeWhile_append_of_ends hr cs
  unfold unsignedExponent
  rw [htake, hdrop]
  split <;> rfl

theorem exponent_append (cs : List Char) :
    exponent (cs ++ r) = followedBy r (exponent cs) := by
  cases cs with
  | nil =>
    cases r with
    | nil => rfl
    | cons c r =>
      have hc := hr c rfl
      simp only [isNumeral, Bool.or_eq_false_iff, beq_eq_false_iff_ne] at hc
      simp [exponent, followedBy, hc]
  | cons c cs =>
    by_cases he : c = 'e' ∨ c = 'E'
    · have hunsigned := unsignedExponent_append hr
      simp only [exponent, List.cons_append, if_pos he]
      cases cs with
      | nil =>
        cases r with
        | nil => rfl
        | cons d r =>
          have hd := hr d rfl
          simp only [isNumeral, Bool.or_eq_false_iff, beq_eq_false_iff_ne] at hd
          simpa [hd] using hunsigned false []
      | cons d cs =>
        by_cases hminus : d = '-'
        · subst hminus
          exact hunsigned true cs
        · by_cases hplus : d = '+'
          · subst hplus
            exact hunsigned false cs
          · simpa [hminus, hplus] using hunsigned false (d :: cs)
    · simp [exponent, followedBy, he]

theorem numeral_append (negative : Bool) (cs : List Char) :
    numeral negative (cs ++ r) = followedBy r (numeral negative cs) := by
  simp only [numeral, wholeDigits_append hr, followedBy]
  cases wholeDigits cs with
  | none => rfl
  | some whole =>
    simp only [Option.map_some, Option.bind_eq_bind, Option.bind_some, fractionDigits_append hr,
      followedBy]
    cases fractionDigits whole.2 with
    | none => rfl
    | some fraction =>
      simp only [Option.map_some, Option.bind_some, exponent_append hr, followedBy]
      cases exponent fraction.2 <;> rfl

end

theorem first_of_isNumeral {c : Char} (hc : isNumeral c) (hminus : c ≠ '-') (cs : List Char) :
    first (c :: cs) = numeral false (c :: cs) := by
  rw [first]
  · exact List.cons_ne_nil _ _
  -- no other token begins with such a character
  all_goals
    intro r heq
    obtain ⟨rfl, -⟩ := List.cons.inj heq
    first | exact absurd hc (by decide) | exact hminus rfl

theorem isNumeral_of_isDecimal {c : Char} (hc : isDecimal c) : isNumeral c := by
  simp [isNumeral, hc]

theorem first_of_isDecimal {c : Char} (hc : isDecimal c) (cs : List Char) :
    first (c :: cs) = numeral false (c :: cs) := by
  refine first_of_isNumeral (isNumeral_of_isDecimal hc) ?_ cs
  rintro rfl
  contradiction

/-- A text that begins like a number. -/
def Numeric (cs : List Char) : Prop := ∃ c ∈ cs.head?, c = '-' ∨ isDecimal c

/-- What follows a number does not change how it is read. -/
theorem first_append {cs r : List Char} (hcs : Numeric cs) (hr : Ends r) :
    first (cs ++ r) = followedBy r (first cs) := by
  obtain ⟨c, hc, hnumber⟩ := hcs
  obtain ⟨ds, rfl⟩ := List.head?_eq_some_iff.1 hc
  rcases hnumber with rfl | hdigit
  · exact numeral_append hr true ds
  · rw [List.cons_append, first_of_isDecimal hdigit, first_of_isDecimal hdigit]
    exact numeral_append hr false (c :: ds)

/-! ### Whole numbers -/

theorem wholeDigits_toDigits (n : ℕ) :
    wholeDigits (Nat.toDigits 10 n) = some (Nat.toDigits 10 n, []) := by
  have htake : (Nat.toDigits 10 n).takeWhile isDecimal = Nat.toDigits 10 n :=
    List.takeWhile_eq_self_iff.2 fun c hc => isDecimal_of_mem_toDigits hc
  have hdrop : (Nat.toDigits 10 n).dropWhile isDecimal = [] :=
    List.dropWhile_eq_nil_iff.2 fun c hc => isDecimal_of_mem_toDigits hc
  unfold wholeDigits
  rw [htake, hdrop]
  rcases toDigits_cases n with hzero | ⟨c, cs, hcs, -, hc⟩
  · rw [hzero]
    rfl
  · rw [hcs]
    split
    · contradiction
    · rename_i heq
      exact absurd (List.cons.inj heq).1 hc
    · rfl

theorem absorb_toDigits {n : ℕ} (h : n < UInt64.size) :
    absorb 0 (digitsOf (Nat.toDigits 10 n)) = (n, []) := by
  have hvalue : (digitsOf (Nat.toDigits 10 n)).foldl (fun n d => n * 10 + d) 0 = n := by
    conv_rhs => rw [← ofDecimals_toDigits n]
    simp only [digitsOf, List.foldl_map, ofDecimals, Nat.mul_comm]
  rw [absorb_of_lt _ (hvalue.trans_lt h), hvalue]

theorem numeral_toDigits {negative : Bool} {n : ℕ} {x : Scalar}
    (h : Numeral.value ⟨negative, digitsOf (Nat.toDigits 10 n), none, none⟩ = some x) :
    numeral negative (Nat.toDigits 10 n) = some (.number (some x), []) := by
  simp only [numeral, wholeDigits_toDigits, Option.bind_eq_bind, Option.bind_some, fractionDigits,
    exponent, h]

theorem value_toDigits {n : ℕ} (h : n < UInt64.size) :
    Numeral.value ⟨false, digitsOf (Nat.toDigits 10 n), none, none⟩ = some (.whole n) := by
  simp [Numeral.value, absorb_toDigits h]

theorem value_negative_toDigits {n : ℕ} (hpos : 0 < n) (h : n ≤ 2 ^ 63) :
    Numeral.value ⟨true, digitsOf (Nat.toDigits 10 n), none, none⟩ = some (.whole (-n)) := by
  have hlt : n < UInt64.size := h.trans_lt (by decide)
  have hsmall : ¬ (n = 0 ∨ Nat.pow 2 63 < n) := by
    rintro (h0 | hlarge)
    · omega
    · exact absurd hlarge (not_lt.2 h)
  simp [Numeral.value, absorb_toDigits hlt, hsmall]

/-- A whole number within the ranges of 64 bits is one token. -/
theorem first_whole {i : ℤ} (hlow : -2 ^ 63 ≤ i) (hhigh : i < 2 ^ 64) :
    Numeric (toString i).toList ∧
      first (toString i).toList = some (.number (some (.whole i)), []) := by
  rw [Int.toString_eq_repr]
  cases i with
  | ofNat n =>
    have hn : n < UInt64.size := by simpa using hhigh
    have hnumeral := numeral_toDigits (value_toDigits hn)
    have hchars : (Int.repr (.ofNat n)).toList = Nat.toDigits 10 n := Nat.toList_repr
    obtain ⟨c, cs, hcs⟩ := List.exists_cons_of_ne_nil (Nat.toDigits_ne_nil (n := n) (b := 10))
    have hc : isDecimal c := isDecimal_of_mem_toDigits (hcs ▸ List.mem_cons_self)
    rw [hcs] at hnumeral
    rw [hchars, hcs, first_of_isDecimal hc, hnumeral]
    exact ⟨⟨c, rfl, .inr hc⟩, rfl⟩
  | negSucc n =>
    have hn : n + 1 ≤ 2 ^ 63 := by omega
    have hnumeral := numeral_toDigits (value_negative_toDigits n.succ_pos hn)
    have hchars : (Int.repr (.negSucc n)).toList = '-' :: Nat.toDigits 10 (n + 1) := by
      rw [← Nat.toList_repr]
      exact String.toList_append
    rw [hchars]
    refine ⟨⟨'-', rfl, .inl rfl⟩, ?_⟩
    rw [first, hnumeral]
    rfl

/-! ### Scanning -/

theorem scan_nil {cs : List Char} (h : cs.dropWhile isSpace = []) (n : ℕ) :
    scan n cs = some [] := by
  unfold scan
  dsimp only
  rw [h]

theorem scan_succ {cs : List Char} {c : Char} {ds : List Char}
    (h : cs.dropWhile isSpace = c :: ds) (n : ℕ) :
    scan (n + 1) cs = (first (c :: ds)).bind fun p => (scan n p.2).map (p.1 :: ·) := by
  rw [scan.eq_def]
  dsimp only
  rw [h]
  rfl

theorem scan_zero {cs : List Char} {c : Char} {ds : List Char}
    (h : cs.dropWhile isSpace = c :: ds) : scan 0 cs = none := by
  unfold scan
  dsimp only
  rw [h]

theorem scan_mono {n m : ℕ} {cs : List Char} {toks : List Token} (h : scan n cs = some toks)
    (hnm : n ≤ m) : scan m cs = some toks := by
  induction n generalizing m cs toks with
  | zero =>
    cases hcs : cs.dropWhile isSpace with
    | nil => rw [← h, scan_nil hcs, scan_nil hcs]
    | cons c ds =>
      rw [scan_zero hcs] at h
      contradiction
  | succ n ih =>
    obtain ⟨k, rfl⟩ := Nat.exists_eq_add_of_le' hnm
    cases hcs : cs.dropWhile isSpace with
    | nil => rw [← h, scan_nil hcs, scan_nil hcs]
    | cons c ds =>
      rw [scan_succ hcs] at h
      rw [← Nat.add_assoc, scan_succ hcs]
      obtain ⟨⟨tok, r⟩, hfirst, hrest⟩ := Option.bind_eq_some_iff.1 h
      obtain ⟨toks, hscan, rfl⟩ := Option.map_eq_some_iff.1 hrest
      rw [hfirst, Option.bind_some, ih hscan (by omega)]
      rfl

theorem dropWhile_of_scan_nil {n : ℕ} {cs : List Char} (h : scan n cs = some []) :
    cs.dropWhile isSpace = [] := by
  cases hcs : cs.dropWhile isSpace with
  | nil => rfl
  | cons c ds =>
    cases n with
    | zero =>
      rw [scan_zero hcs] at h
      contradiction
    | succ n =>
      rw [scan_succ hcs] at h
      obtain ⟨p, -, hrest⟩ := Option.bind_eq_some_iff.1 h
      obtain ⟨toks, -, hcons⟩ := Option.map_eq_some_iff.1 hrest
      contradiction

/-- Spaces are passed over. -/
theorem ofChars_space {c : Char} (hc : isSpace c) {cs : List Char} {toks : List Token}
    (h : ofChars cs = some toks) : ofChars (c :: cs) = some toks := by
  have hmore := scan_mono h (Nat.le_succ cs.length)
  have hdrop : (c :: cs).dropWhile isSpace = cs.dropWhile isSpace := List.dropWhile_cons_of_pos hc
  rw [ofChars, List.length_cons, ← hmore]
  unfold scan
  dsimp only
  rw [hdrop]

/-- A text that begins with a token, and not with a space. -/
theorem ofChars_token {cs r : List Char} {tok : Token} {toks : List Token}
    (hspace : ∃ c ∈ cs.head?, isSpace c = false) (hfirst : first (cs ++ r) = some (tok, r))
    (h : ofChars r = some toks) : ofChars (cs ++ r) = some (tok :: toks) := by
  obtain ⟨c, hc, hspace⟩ := hspace
  obtain ⟨ds, rfl⟩ := List.head?_eq_some_iff.1 hc
  have hdrop : (c :: ds ++ r).dropWhile isSpace = c :: (ds ++ r) :=
    List.dropWhile_cons_of_neg (by simp [hspace])
  have hrest : scan (ds ++ r).length r = some toks := scan_mono h (by simp)
  have hlength : (c :: ds ++ r).length = (ds ++ r).length + 1 := rfl
  rw [ofChars, hlength, scan_succ hdrop, ← List.cons_append, hfirst, Option.bind_some, hrest]
  rfl

theorem ofChars_mark {c : Char} {r : List Char} {tok : Token} {toks : List Token}
    (hspace : isSpace c = false) (hfirst : first (c :: r) = some (tok, r))
    (h : ofChars r = some toks) : ofChars (c :: r) = some (tok :: toks) := by
  have hhead : ∃ d ∈ [c].head?, isSpace d = false := ⟨c, rfl, hspace⟩
  exact ofChars_token hhead hfirst h

theorem ofChars_quote (s : String) {r : List Char} {toks : List Token}
    (h : ofChars r = some toks) : ofChars (quote s ++ r) = some (.text (some s) :: toks) :=
  ofChars_token ⟨'"', rfl, rfl⟩ (first_quote s r) h

theorem isSpace_of_isNumeral {c : Char} (hc : isNumeral c) : isSpace c = false := by
  simp only [isSpace, Bool.or_eq_false_iff, beq_eq_false_iff_ne]
  refine ⟨⟨⟨?_, ?_⟩, ?_⟩, ?_⟩
  all_goals
    rintro rfl
    revert hc
    decide

theorem ofChars_number {cs r : List Char} {x : Option Scalar} {toks : List Token}
    (hcs : Numeric cs) (hfirst : first cs = some (.number x, [])) (hr : Ends r)
    (h : ofChars r = some toks) : ofChars (cs ++ r) = some (.number x :: toks) := by
  have hspace : ∃ c ∈ cs.head?, isSpace c = false := by
    obtain ⟨c, hc, rfl | hdigit⟩ := hcs
    · exact ⟨'-', hc, rfl⟩
    · exact ⟨c, hc, isSpace_of_isNumeral (isNumeral_of_isDecimal hdigit)⟩
  refine ofChars_token hspace ?_ h
  rw [first_append hcs hr, hfirst]
  rfl

end CodeHealth.Json.Token
