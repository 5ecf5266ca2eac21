import CodeHealth.Toml.Writer
import Mathlib

/-! Texts in TOML come back from each form in which they are written: escaped between quotes or as
they stand between apostrophes, on one line or over several. What follows the closing marks is the
end of a line, so they cannot be taken for more marks than they are. -/

namespace CodeHealth.Toml

open Number (hexValue)

/-! ### Characters -/

theorem isPlain_of_isControl {c : Char} (h : isControl c = false) : isPlain c := by
  simp only [isControl, Bool.or_eq_false_iff, decide_eq_false_iff_not] at h
  simp only [isPlain, Bool.or_eq_true, beq_iff_eq, Bool.and_eq_true, decide_eq_true_eq, bne_iff_ne]
  omega

theorem not_lineEnd_of_isPlain {c : Char} (h : isPlain c) : c ≠ '\n' ∧ c ≠ '\r' := by
  constructor <;> rintro rfl <;> revert h <;> decide

theorem afterLineEnd_cons {c : Char} (hfeed : c ≠ '\n') (hreturn : c ≠ '\r') (r : List Char) :
    afterLineEnd (c :: r) = none := by
  simp [afterLineEnd, hfeed, hreturn]

theorem hexValue_digit : ∀ d < 16,
    hexValue (if d < 10 then Char.ofNat (48 + d) else Char.ofNat (55 + d)) = some d := by
  decide

theorem hexNumber_hex4 {n : ℕ} (h : n < 65536) : hexNumber (hex4 n) = some n := by
  have hdigit (k : ℕ) := hexValue_digit (k % 16) (Nat.mod_lt k (by decide))
  simp only [hexNumber, hex4, List.foldlM_cons, List.foldlM_nil, hdigit, Option.map_some,
    Option.bind_eq_bind, Option.bind_some, Option.pure_def, Option.some.injEq]
  omega

/-- A character other than a line feed stands as it is, or is written as an escape that does not
begin like the end of a line. -/
theorem escapeChar_cases {c : Char} (hc : c ≠ '\n') :
    (escapeChar c = [c] ∧ isPlain c ∧ c ≠ '"' ∧ c ≠ '\\') ∨
      ∃ d e, escapeChar c = '\\' :: d :: e ∧ (isSpace d = false ∧ d ≠ '\n' ∧ d ≠ '\r') ∧
        ∀ r, escape (d :: (e ++ r)) = some (c, r) := by
  have hself : Char.ofNat c.toNat = c := Char.ofNat_toNat c
  unfold escapeChar
  split_ifs with hback htab hform hreturn hquote hslash hcontrol
  · exact .inr ⟨'b', [], rfl, by decide, fun r => by rw [← hself, hback]; rfl⟩
  · exact .inr ⟨'t', [], rfl, by decide, fun r => by rw [htab]; rfl⟩
  · exact .inr ⟨'f', [], rfl, by decide, fun r => by rw [← hself, hform]; rfl⟩
  · exact .inr ⟨'r', [], rfl, by decide, fun r => by rw [hreturn]; rfl⟩
  · exact .inr ⟨'"', [], rfl, by decide, fun r => by rw [hquote]; rfl⟩
  · exact .inr ⟨'\\', [], rfl, by decide, fun r => by rw [hslash]; rfl⟩
  · right
    refine ⟨'u', hex4 c.toNat, rfl, by decide, fun r => ?_⟩
    have hlow : c.toNat < 128 := by
      simp only [isControl, Bool.or_eq_true, decide_eq_true_eq] at hcontrol
      omega
    have hhex : hexNumber (hex4 c.toNat) = some c.toNat := hexNumber_hex4 (by omega)
    have hscalar : scalar? c.toNat = some c := by
      rw [scalar?, if_pos (.inl (by omega)), hself]
    change ((hexNumber (hex4 c.toNat)).bind fun n => (scalar? n).bind fun c => some (c, r)) = _
    rw [hhex, Option.bind_some, hscalar, Option.bind_some]
  · left
    exact ⟨rfl, isPlain_of_isControl (Bool.eq_false_iff.2 hcontrol), hquote, hslash⟩

/-! ### Between quotes on one line -/

section

variable {n : ℕ} {c d : Char} {r r' : List Char}

theorem quoted_plain (hquote : c ≠ '"') (hslash : c ≠ '\\') (hplain : isPlain c) :
    quoted (n + 1) (c :: r) = push c (quoted n r) := by
  rw [quoted, if_neg hquote, if_neg hslash, if_pos hplain]

theorem quoted_escape (h : escape r = some (c, r')) :
    quoted (n + 1) ('\\' :: r) = push c (quoted n r') := by
  rw [quoted, if_neg (by decide), if_pos rfl, h]
  rfl

theorem quoted_escaped {cs : List Char} (hline : '\n' ∉ cs) (r : List Char) (hn : cs.length < n) :
    quoted n (cs.flatMap escapeChar ++ '"' :: r) = some (cs, r) := by
  induction cs generalizing n with
  | nil =>
    obtain ⟨n, rfl⟩ := Nat.exists_eq_add_one_of_ne_zero (Nat.ne_of_gt hn)
    simp [quoted]
  | cons c cs ih =>
    obtain ⟨n, rfl⟩ := Nat.exists_eq_add_one_of_ne_zero (Nat.ne_zero_of_lt hn)
    have hrest := ih (List.not_mem_of_not_mem_cons hline) (Nat.lt_of_succ_lt_succ hn)
    have hc : c ≠ '\n' := (List.ne_of_not_mem_cons hline).symm
    rw [List.flatMap_cons, List.append_assoc]
    rcases escapeChar_cases hc with ⟨hself, hplain, hquote, hslash⟩ | ⟨d, e, hescape, -, hback⟩
    · rw [hself, List.singleton_append, quoted_plain hquote hslash hplain, hrest]
      rfl
    · rw [hescape, List.cons_append, List.cons_append, quoted_escape (hback _), hrest]
      rfl

/-! ### Between quotes over several lines -/

theorem closing_of_ne {mark : Char} (h : c ≠ mark) : closing mark (c :: r) = none := by
  simp [closing, h]

theorem closing_three {mark : Char} (h : mark ≠ '\n') :
    closing mark (mark :: mark :: mark :: '\n' :: r) = some ([], '\n' :: r) := by
  simp [closing, h.symm]

theorem joined_cons (hspace : isSpace d = false) (hfeed : d ≠ '\n') (hreturn : d ≠ '\r') :
    joined (d :: r) = none := by
  rw [joined, List.dropWhile_cons_of_neg (by simp [hspace]), afterLineEnd_cons hfeed hreturn]
  rfl

theorem quotedLines_end :
    quotedLines (n + 1) ('"' :: '"' :: '"' :: '\n' :: r) = some ([], '\n' :: r) := by
  rw [quotedLines, closing_three (by decide)]

theorem quotedLines_feed : quotedLines (n + 1) ('\n' :: r) = push '\n' (quotedLines n r) := by
  rw [quotedLines, closing_of_ne (by decide)]
  rfl

theorem quotedLines_plain (hquote : c ≠ '"') (hslash : c ≠ '\\') (hplain : isPlain c) :
    quotedLines (n + 1) (c :: r) = push c (quotedLines n r) := by
  obtain ⟨hfeed, hreturn⟩ := not_lineEnd_of_isPlain hplain
  rw [quotedLines, closing_of_ne hquote, afterLineEnd_cons hfeed hreturn]
  simp only [if_neg hslash, if_pos hplain]

theorem quotedLines_escape (hd : isSpace d = false ∧ d ≠ '\n' ∧ d ≠ '\r')
    (h : escape (d :: r) = some (c, r')) :
    quotedLines (n + 1) ('\\' :: d :: r) = push c (quotedLines n r') := by
  obtain ⟨hspace, hfeed, hreturn⟩ := hd
  rw [quotedLines, closing_of_ne (by decide), afterLineEnd_cons (by decide) (by decide)]
  simp only [if_true, joined_cons hspace hfeed hreturn, h, Option.bind_some]

theorem quotedLines_escaped (cs r : List Char) (hn : cs.length < n) :
    quotedLines n (cs.flatMap escapeChar ++ '"' :: '"' :: '"' :: '\n' :: r) =
      some (cs, '\n' :: r) := by
  induction cs generalizing n with
  | nil =>
    obtain ⟨n, rfl⟩ := Nat.exists_eq_add_one_of_ne_zero (Nat.ne_of_gt hn)
    exact quotedLines_end
  | cons c cs ih =>
    obtain ⟨n, rfl⟩ := Nat.exists_eq_add_one_of_ne_zero (Nat.ne_zero_of_lt hn)
    have hrest := ih (Nat.lt_of_succ_lt_succ hn)
    rw [List.flatMap_cons, List.append_assoc]
    by_cases hc : c = '\n'
    · subst hc
      have hself : escapeChar '\n' = ['\n'] := rfl
      rw [hself, List.singleton_append, quotedLines_feed, hrest]
      rfl
    rcases escapeChar_cases hc with ⟨hself, hplain, hquote, hslash⟩ | ⟨d, e, hescape, hd, hback⟩
    · rw [hself, List.singleton_append, quotedLines_plain hquote hslash hplain, hrest]
      rfl
    · rw [hescape, List.cons_append, List.cons_append, quotedLines_escape hd (hback _), hrest]
      rfl

/-! ### Between apostrophes -/

theorem apostropheText_append {cs : List Char} (hmark : '\'' ∉ cs) (hplain : ∀ c ∈ cs, isPlain c)
    (r : List Char) : apostropheText (cs ++ '\'' :: r) = some (cs, r) := by
  induction cs with
  | nil => simp [apostropheText]
  | cons c cs ih =>
    obtain ⟨hc, hcs⟩ := List.forall_mem_cons.1 hplain
    have hne : c ≠ '\'' := (List.ne_of_not_mem_cons hmark).symm
    rw [List.cons_append, apostropheText, if_neg hne, if_pos hc,
      ih (List.not_mem_of_not_mem_cons hmark) hcs]
    rfl

theorem closing_of_not_three {mark : Char} {cs : List Char}
    (h : ∀ r, cs ≠ mark :: mark :: mark :: r) : closing mark cs = none := by
  match cs with
  | [] => rfl
  | [a] => by_cases ha : a = mark <;> simp [closing, ha]
  | [a, b] => by_cases ha : a = mark <;> by_cases hb : b = mark <;> simp [closing, ha, hb]
  | a :: b :: c :: r =>
    by_cases ha : a = mark
    · by_cases hb : b = mark
      · have hc : c ≠ mark := fun hc => h r (by rw [ha, hb, hc])
        simp [closing, ha, hb, hc]
      · simp [closing, ha, hb]
    · simp [closing, ha]

theorem le_apostrophes (run : ℕ) (cs : List Char) : run ≤ apostrophes run cs := by
  induction cs generalizing run with
  | nil => exact le_rfl
  | cons c cs ih =>
    rw [apostrophes]
    split_ifs
    · exact (Nat.le_succ run).trans (ih (run + 1))
    · exact Nat.le_max_left _ _

theorem apostrophes_mono {run run' : ℕ} (h : run ≤ run') (cs : List Char) :
    apostrophes run cs ≤ apostrophes run' cs := by
  induction cs generalizing run run' with
  | nil => exact h
  | cons c cs ih =>
    rw [apostrophes, apostrophes]
    split_ifs
    · exact ih (Nat.succ_le_succ h)
    · exact max_le_max_right _ h

theorem apostrophes_tail_le (c : Char) (cs : List Char) :
    apostrophes 0 cs ≤ apostrophes 0 (c :: cs) := by
  conv_rhs => rw [apostrophes]
  split_ifs
  · exact apostrophes_mono (Nat.zero_le 1) cs
  · exact Nat.le_max_right _ _

/-- What may stand as it is between three apostrophes on either side. -/
structure Literal (cs : List Char) : Prop where
  short : apostrophes 0 cs < 3
  last : '\'' ∉ cs.getLast?
  plain : ∀ c ∈ cs, c = '\n' ∨ isPlain c

theorem Literal.tail {cs : List Char} (h : Literal (c :: cs)) : Literal cs where
  short := (apostrophes_tail_le c cs).trans_lt h.short
  last := by
    cases cs with
    | nil => simp
    | cons d cs => simpa [List.getLast?_cons_cons] using h.last
  plain := fun d hd => h.plain d (List.mem_cons_of_mem c hd)

/-- A text that begins here does not end here. -/
theorem Literal.closing_append {cs : List Char} (h : Literal (c :: cs)) :
    closing '\'' (c :: cs ++ r) = none := by
  refine closing_of_not_three fun s heq => ?_
  match cs with
  | [] =>
    have hlast : c = '\'' := (List.cons.inj heq).1
    exact h.last (congrArg some hlast)
  | [d] =>
    have hlast : d = '\'' := (List.cons.inj (List.cons.inj heq).2).1
    exact h.last (congrArg some hlast)
  | d :: e :: cs =>
    simp only [List.cons_append, List.cons.injEq] at heq
    obtain ⟨rfl, rfl, rfl, -⟩ := heq
    have hthree : 3 ≤ apostrophes 3 cs := le_apostrophes 3 cs
    exact absurd h.short (Nat.not_lt.2 hthree)

theorem literalLines_append {cs : List Char} (h : Literal cs) (r : List Char)
    (hn : cs.length < n) :
    literalLines n (cs ++ '\'' :: '\'' :: '\'' :: '\n' :: r) = some (cs, '\n' :: r) := by
  induction cs generalizing n with
  | nil =>
    obtain ⟨n, rfl⟩ := Nat.exists_eq_add_one_of_ne_zero (Nat.ne_of_gt hn)
    rw [List.nil_append, literalLines, closing_three (by decide)]
  | cons c cs ih =>
    obtain ⟨n, rfl⟩ := Nat.exists_eq_add_one_of_ne_zero (Nat.ne_zero_of_lt hn)
    have hrest := ih h.tail (Nat.lt_of_succ_lt_succ hn)
    have hclosing : closing '\'' (c :: (cs ++ '\'' :: '\'' :: '\'' :: '\n' :: r)) = none :=
      h.closing_append
    rw [List.cons_append, literalLines, hclosing]
    rcases h.plain c List.mem_cons_self with rfl | hplain
    · change push '\n' _ = _
      rw [hrest]
      rfl
    · obtain ⟨hfeed, hreturn⟩ := not_lineEnd_of_isPlain hplain
      simp only [afterLineEnd_cons hfeed hreturn, if_pos hplain, hrest]
      rfl

end

/-! ### All forms -/

theorem literal_of_standsAlone {cs : List Char} (h : standsAlone cs) : Literal cs := by
  simp only [standsAlone, Bool.and_eq_true, decide_eq_true_eq, bne_iff_ne, List.all_eq_true,
    Bool.or_eq_true, beq_iff_eq, Bool.not_eq_true'] at h
  obtain ⟨⟨hshort, hlast⟩, hplain⟩ := h
  refine ⟨hshort, hlast, fun c hc => ?_⟩
  rcases hplain c hc with (rfl | rfl) | hcontrol
  · exact .inr rfl
  · exact .inl rfl
  · exact .inr (isPlain_of_isControl hcontrol)

theorem length_le_escaped (cs : List Char) : cs.length ≤ (cs.flatMap escapeChar).length := by
  have hpos (c : Char) : 1 ≤ (escapeChar c).length := by
    by_cases hc : c = '\n'
    · subst hc
      exact le_rfl
    rcases escapeChar_cases hc with ⟨hself, -⟩ | ⟨d, e, hescape, -⟩
    · rw [hself]
      exact le_rfl
    · rw [hescape]
      exact Nat.le_add_left 1 _
  induction cs with
  | nil => exact le_rfl
  | cons c cs ih =>
    rw [List.flatMap_cons, List.length_append, List.length_cons]
    have := hpos c
    omega

theorem anyText_line {cs : List Char} (hquotes : ∀ r, cs ≠ '"' :: '"' :: '"' :: r)
    (happs : ∀ r, cs ≠ '\'' :: '\'' :: '\'' :: r) : anyText cs = lineText cs := by
  unfold anyText
  split
  · exact absurd rfl (hquotes _)
  · exact absurd rfl (happs _)
  · rfl

theorem dropLineEnd_of_head {c : Char} (hfeed : c ≠ '\n') (hreturn : c ≠ '\r') (r : List Char) :
    dropLineEnd (c :: r) = c :: r := by
  rw [dropLineEnd, afterLineEnd_cons hfeed hreturn]
  rfl

section

variable {cs : List Char} (r : List Char)

theorem anyText_quoted (hline : '\n' ∉ cs) :
    anyText ('"' :: cs.flatMap escapeChar ++ ['"'] ++ '\n' :: r) =
      some (String.ofList cs, '\n' :: r) := by
  have hread : lineText ('"' :: cs.flatMap escapeChar ++ ['"'] ++ '\n' :: r) =
      some (String.ofList cs, '\n' :: r) := by
    have hlength := length_le_escaped cs
    simp only [List.append_assoc, List.cons_append, List.nil_append]
    exact congrArg ofChars (quoted_escaped hline ('\n' :: r)
      (by simp only [List.length_append, List.length_cons]; omega))
  rw [anyText_line _ (by simp), hread]
  -- the second mark either belongs to an escape or ends the empty text
  intro s heq
  cases cs with
  | nil => simp at heq
  | cons c cs =>
    have hc : c ≠ '\n' := (List.ne_of_not_mem_cons hline).symm
    rcases escapeChar_cases hc with ⟨hself, -, hquote, -⟩ | ⟨d, e, hescape, -⟩
    · simp [hself, hquote] at heq
    · simp [hescape] at heq

theorem anyText_quotedLines :
    anyText (['"', '"', '"', '\n'] ++ cs.flatMap escapeChar ++ ['"', '"', '"'] ++ '\n' :: r) =
      some (String.ofList cs, '\n' :: r) := by
  have hlength := length_le_escaped cs
  simp only [List.append_assoc, List.cons_append, List.nil_append]
  exact congrArg ofChars (quotedLines_escaped cs r
    (by simp only [List.length_append, List.length_cons]; omega))

theorem anyText_apostrophes (hmark : '\'' ∉ cs) (hplain : ∀ c ∈ cs, isPlain c) (hcs : cs ≠ []) :
    anyText ('\'' :: cs ++ ['\''] ++ '\n' :: r) = some (String.ofList cs, '\n' :: r) := by
  have hread : lineText ('\'' :: cs ++ ['\''] ++ '\n' :: r) =
      some (String.ofList cs, '\n' :: r) := by
    simp only [List.append_assoc, List.cons_append, List.nil_append]
    exact congrArg ofChars (apostropheText_append hmark hplain ('\n' :: r))
  rw [anyText_line (by simp) _, hread]
  intro s heq
  cases cs with
  | nil => exact hcs rfl
  | cons c cs =>
    have hc : c = '\'' := (List.cons.inj (List.cons.inj heq).2).1
    exact hmark (hc ▸ List.mem_cons_self)

theorem anyText_literalLines (h : Literal cs) :
    anyText (['\'', '\'', '\'', '\n'] ++ cs ++ ['\'', '\'', '\''] ++ '\n' :: r) =
      some (String.ofList cs, '\n' :: r) := by
  simp only [List.append_assoc, List.cons_append, List.nil_append]
  exact congrArg ofChars (literalLines_append h r (by simp; omega))

theorem anyText_literal (h : Literal cs) (hline : '\n' ∉ cs) :
    anyText (['\'', '\'', '\''] ++ cs ++ ['\'', '\'', '\''] ++ '\n' :: r) =
      some (String.ofList cs, '\n' :: r) := by
  have hdrop : dropLineEnd (cs ++ '\'' :: '\'' :: '\'' :: '\n' :: r) =
      cs ++ '\'' :: '\'' :: '\'' :: '\n' :: r := by
    cases cs with
    | nil => exact dropLineEnd_of_head (by decide) (by decide) _
    | cons c cs =>
      have hc : c ≠ '\n' := (List.ne_of_not_mem_cons hline).symm
      have hplain := (h.plain c List.mem_cons_self).resolve_left hc
      exact dropLineEnd_of_head hc (not_lineEnd_of_isPlain hplain).2 _
  simp only [List.append_assoc, List.cons_append, List.nil_append, anyText, hdrop]
  exact congrArg ofChars (literalLines_append h r (by simp))

end

/-- A text is read back, whatever stands on the lines behind it. -/
theorem anyText_writeText (s : String) (r : List Char) :
    anyText (writeText s ++ '\n' :: r) = some (s, '\n' :: r) := by
  have hself : String.ofList s.toList = s := String.ofList_toList
  unfold writeText
  generalize s.toList = cs at hself
  subst hself
  dsimp only
  split_ifs with halone hline hmark hline
  · exact anyText_literalLines r (literal_of_standsAlone (Bool.and_eq_true_iff.1 halone).2)
  · have hliteral := literal_of_standsAlone (Bool.and_eq_true_iff.1 halone).2
    exact anyText_literal r hliteral (by simpa using hline)
  · obtain ⟨hescaped, halone⟩ := Bool.and_eq_true_iff.1 halone
    have hcs : cs ≠ [] := by
      rintro rfl
      contradiction
    have hplain (c : Char) (hc : c ∈ cs) : isPlain c := by
      refine ((literal_of_standsAlone halone).plain c hc).resolve_left ?_
      rintro rfl
      exact hline (List.contains_iff_mem.2 hc)
    exact anyText_apostrophes r (by simpa using hmark) hplain hcs
  · exact anyText_quotedLines r
  · exact anyText_quoted r (by simpa using hline)

theorem head?_writeText (s : String) :
    (writeText s).head? = some '"' ∨ (writeText s).head? = some '\'' := by
  unfold writeText
  dsimp only
  split_ifs <;> simp

end CodeHealth.Toml
