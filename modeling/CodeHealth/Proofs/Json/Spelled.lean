import CodeHealth.Json.Tree
import CodeHealth.Proofs.Json.Members
import CodeHealth.Proofs.Json.Tokens
import Mathlib

/-! What is written is what is read. The text of a value, compact or laid out over lines, spells the
tree of that value; how its binary numbers are read is left to their own texts. -/

namespace CodeHealth.Json

namespace Tree

/-! ### The tokens of a tree -/

mutual
def tokens : Tree → List Token
  | null => [.null]
  | bool b => [.bool b]
  | number x => [.number x]
  | text s => [.text s]
  | list [] => [.listOpen, .listClose]
  | list (t :: ts) => .listOpen :: (tokens t ++ moreItems ts)
  | record [] => [.recordOpen, .recordClose]
  | record ((s, t) :: ms) => .recordOpen :: .text s :: .colon :: (tokens t ++ moreMembers ms)
/-- The items after the first, and the bracket that closes the list. -/
def moreItems : List Tree → List Token
  | [] => [.listClose]
  | t :: ts => .comma :: (tokens t ++ moreItems ts)
def moreMembers : List (Option String × Tree) → List Token
  | [] => [.recordClose]
  | (s, t) :: ms => .comma :: .text s :: .colon :: (tokens t ++ moreMembers ms)
end

/-- What follows the bracket that opens a list. -/
def tokensOfItems : List Tree → List Token
  | [] => [.listClose]
  | t :: ts => tokens t ++ moreItems ts

def tokensOfMembers : List (Option String × Tree) → List Token
  | [] => [.recordClose]
  | (s, t) :: ms => .text s :: .colon :: (tokens t ++ moreMembers ms)

theorem tokens_list (ts : List Tree) : (list ts).tokens = .listOpen :: tokensOfItems ts := by
  cases ts with
  | nil => rfl
  | cons t ts => rw [tokens, tokensOfItems]

theorem tokens_record (ms : List (Option String × Tree)) :
    (record ms).tokens = .recordOpen :: tokensOfMembers ms := by
  cases ms with
  | nil => rfl
  | cons m ms => rw [tokens, tokensOfMembers]

/-- A value may begin here. -/
def Awaits (e : Expect) : Prop := e = .value ∨ e = .itemOrClose

theorem step_awaiting {e : Expect} (he : Awaits e) {tok : Token} (htok : tok ≠ .listClose)
    (frames : List Frame) : step (frames, e) tok = start frames tok := by
  rcases he with rfl | rfl
  · rw [step]
  · rw [step]
    rintro frame rest rfl rfl
    contradiction

theorem run_cons {p q : Progress} {tok : Token} (h : step p tok = some q) (toks : List Token) :
    (tok :: toks).foldlM step p = toks.foldlM step q := by
  rw [List.foldlM_cons, h]
  rfl

theorem run_awaiting {e : Expect} (he : Awaits e) {tok : Token} (htok : tok ≠ .listClose)
    {frames : List Frame} {q : Progress} (h : start frames tok = some q) (toks : List Token) :
    (tok :: toks).foldlM step (frames, e) = toks.foldlM step q :=
  run_cons ((step_awaiting he htok frames).trans h) toks

mutual
/-- The tokens of a tree build up the tree. -/
theorem run_tokens : (t : Tree) → (frames : List Frame) → (e : Expect) → Awaits e →
    (toks : List Token) →
    (t.tokens ++ toks).foldlM step (frames, e) = toks.foldlM step (frames, .rest t)
  | null, _, _, he, toks => run_awaiting he (by simp) rfl toks
  | bool _, _, _, he, toks => run_awaiting he (by simp) rfl toks
  | number _, _, _, he, toks => run_awaiting he (by simp) rfl toks
  | text _, _, _, he, toks => run_awaiting he (by simp) rfl toks
  | list [], _, _, he, toks => (run_awaiting he (by simp) rfl _).trans (run_cons rfl toks)
  | list (t :: ts), frames, e, he, toks => by
    rw [tokens, List.cons_append, List.append_assoc, run_awaiting he (by simp) rfl,
      run_tokens t _ .itemOrClose (.inr rfl), run_moreItems ts t [] frames toks]
    rfl
  | record [], _, _, he, toks => (run_awaiting he (by simp) rfl _).trans (run_cons rfl toks)
  | record ((s, t) :: ms), frames, e, he, toks => by
    rw [tokens, List.cons_append, run_awaiting he (by simp) rfl, List.cons_append,
      run_cons rfl, List.cons_append, run_cons rfl, List.append_assoc,
      run_tokens t _ .value (.inl rfl), run_moreMembers ms s t [] frames toks]
    rfl
theorem run_moreItems : (ts : List Tree) → (t : Tree) → (done : List Tree) →
    (frames : List Frame) → (toks : List Token) →
    (moreItems ts ++ toks).foldlM step (.list done :: frames, .rest t) =
      toks.foldlM step (frames, .rest (.list (done.reverse ++ t :: ts)))
  | [], t, done, frames, toks => by
    rw [moreItems, List.cons_append, run_cons rfl, List.reverse_cons]
    rfl
  | u :: us, t, done, frames, toks => by
    rw [moreItems, List.cons_append, List.append_assoc, run_cons rfl,
      run_tokens u _ .value (.inl rfl), run_moreItems us u (t :: done) frames toks,
      List.reverse_cons, List.append_assoc]
    rfl
theorem run_moreMembers : (ms : List (Option String × Tree)) → (s : Option String) → (t : Tree) →
    (done : List (Option String × Tree)) → (frames : List Frame) → (toks : List Token) →
    (moreMembers ms ++ toks).foldlM step (.member s :: .record done :: frames, .rest t) =
      toks.foldlM step (frames, .rest (.record (done.reverse ++ (s, t) :: ms)))
  | [], s, t, done, frames, toks => by
    rw [moreMembers, List.cons_append, run_cons rfl, List.reverse_cons]
    rfl
  | (s', u) :: ms, s, t, done, frames, toks => by
    rw [moreMembers, List.cons_append, run_cons rfl, List.cons_append, run_cons rfl,
      List.cons_append, run_cons rfl, List.append_assoc, run_tokens u _ .value (.inl rfl),
      run_moreMembers ms s' u ((s, t) :: done) frames toks, List.reverse_cons, List.append_assoc]
    rfl
end

theorem ofTokens_tokens (t : Tree) : ofTokens t.tokens = some t := by
  have hrun := run_tokens t [] .value (.inl rfl) []
  rw [List.append_nil] at hrun
  rw [ofTokens, hrun]
  rfl

end Tree

/-! ### The tree that a value spells -/

/-- What the text of a number is read as. -/
def spelledNumber (cs : List Char) : Tree :=
  match Token.first cs with
  | some (.number x, _) => .number x
  | _ => .null

mutual
/-- The tree that the text of a value spells: its members in written order, and its binary numbers
as their texts are read. -/
def spelled : Json → Tree
  | null => .null
  | bool b => .bool b
  | whole i => .number (some (.whole i))
  | real x => spelledNumber (leaf (.real x))
  | real32 x => spelledNumber (leaf (.real32 x))
  | text s => .text (some s)
  | list xs => .list (spelledItems xs)
  | record ms => .record (spelledMembers ms)
def spelledItems : List Json → List Tree
  | [] => []
  | x :: xs => spelled x :: spelledItems xs
def spelledMembers : List (String × Json) → List (Option String × Tree)
  | [] => []
  | (n, x) :: ms => (some n, spelled x) :: spelledMembers ms
end

theorem spelledItems_eq_map (xs : List Json) : spelledItems xs = xs.map spelled := by
  induction xs with
  | nil => rfl
  | cons x xs ih => rw [spelledItems, ih, List.map_cons]

theorem spelledMembers_eq_map (ms : List (String × Json)) :
    spelledMembers ms = ms.map fun m => (some m.1, m.2.spelled) := by
  induction ms with
  | nil => rfl
  | cons m ms ih => rw [spelledMembers, ih, List.map_cons]

theorem filter_spelledMembers {ms : List (String × Json)} (h : (ms.map Prod.fst).Nodup)
    {m : String × Json} (hm : m ∈ ms) :
    (spelledMembers ms).filter (·.1 == some m.1) = [(some m.1, m.2.spelled)] := by
  have hcomp : ((fun m' : Option String × Tree => m'.1 == some m.1) ∘
      fun m : String × Json => (some m.1, m.2.spelled)) = fun m' => m'.1 == m.1 := by
    funext m'
    rfl
  rw [spelledMembers_eq_map, List.filter_map, hcomp, filter_name_of_nodup h hm]
  rfl

/-- A text that is read as one number, or says that there is none. -/
def IsNumber (cs : List Char) : Prop :=
  cs = nullText ∨ Token.Numeric cs ∧ ∃ x, Token.first cs = some (.number x, [])

mutual
/-- The numbers in the value can be read as numbers. -/
def Legible : Json → Prop
  | whole i => -2 ^ 63 ≤ i ∧ i < 2 ^ 64
  | real x => IsNumber (leaf (.real x))
  | real32 x => IsNumber (leaf (.real32 x))
  | list xs => LegibleItems xs
  | record ms => LegibleMembers ms
  | _ => True
def LegibleItems : List Json → Prop
  | [] => True
  | x :: xs => x.Legible ∧ LegibleItems xs
def LegibleMembers : List (String × Json) → Prop
  | [] => True
  | (_, x) :: ms => x.Legible ∧ LegibleMembers ms
end

theorem legibleItems_iff (xs : List Json) : LegibleItems xs ↔ ∀ x ∈ xs, x.Legible := by
  induction xs with
  | nil => simp [LegibleItems]
  | cons x xs ih => simp [LegibleItems, ih]

section

open Token (ofChars Ends)

variable {r : List Char} {toks : List Token}

theorem ofChars_null (h : ofChars r = some toks) : ofChars (nullText ++ r) = some (.null :: toks) :=
  Token.ofChars_token ⟨'n', rfl, rfl⟩ rfl h

theorem ofChars_isNumber {cs : List Char} (hcs : IsNumber cs) (hr : Ends r)
    (h : ofChars r = some toks) :
    ofChars (cs ++ r) = some ((spelledNumber cs).tokens ++ toks) := by
  rcases hcs with rfl | ⟨hnumeric, x, hx⟩
  · exact ofChars_null h
  · rw [Token.ofChars_number hnumeric hx hr h, spelledNumber, hx]
    rfl

theorem ends_of_isNumeral {c : Char} (hc : Token.isNumeral c = false) (r : List Char) :
    Ends (c :: r) := by
  rintro d ⟨⟩
  exact hc

/-- The text of a value without parts has the tokens of the tree that it spells. -/
theorem ofChars_leaf {v : Json} (hv : v.Legible) (hlist : ∀ xs, v ≠ .list xs)
    (hrecord : ∀ ms, v ≠ .record ms) (hr : Ends r) (h : ofChars r = some toks) :
    ofChars (leaf v ++ r) = some (v.spelled.tokens ++ toks) := by
  cases v with
  | null => exact ofChars_null h
  | bool b => cases b <;> exact Token.ofChars_token ⟨_, rfl, rfl⟩ rfl h
  | whole i =>
    obtain ⟨hlow, hhigh⟩ := hv
    obtain ⟨hnumeric, hfirst⟩ := Token.first_whole hlow hhigh
    exact Token.ofChars_number hnumeric hfirst hr h
  | real x => exact ofChars_isNumber hv hr h
  | real32 x => exact ofChars_isNumber hv hr h
  | text s => exact Token.ofChars_quote s h
  | list xs => exact absurd rfl (hlist xs)
  | record ms => exact absurd rfl (hrecord ms)

mutual
/-- The compact text of a value has the tokens of the tree that it spells. -/
theorem ofChars_compact : (v : Json) → v.Legible → (r : List Char) → (toks : List Token) →
    Ends r → ofChars r = some toks →
    ofChars (compactChars v ++ r) = some (v.spelled.tokens ++ toks)
  | list xs, hv, r, toks, _, h => by
    rw [spelled, Tree.tokens_list, compactChars]
    exact Token.ofChars_mark rfl rfl (ofChars_compactItems xs hv r toks h)
  | record ms, hv, r, toks, _, h => by
    rw [spelled, Tree.tokens_record, compactChars]
    exact Token.ofChars_mark rfl rfl (ofChars_compactMembers ms hv r toks h)
  | null, hv, _, _, hr, h => ofChars_leaf hv (by simp) (by simp) hr h
  | bool _, hv, _, _, hr, h => ofChars_leaf hv (by simp) (by simp) hr h
  | whole _, hv, _, _, hr, h => ofChars_leaf hv (by simp) (by simp) hr h
  | real _, hv, _, _, hr, h => ofChars_leaf hv (by simp) (by simp) hr h
  | real32 _, hv, _, _, hr, h => ofChars_leaf hv (by simp) (by simp) hr h
  | text _, hv, _, _, hr, h => ofChars_leaf hv (by simp) (by simp) hr h
theorem ofChars_compactItems : (xs : List Json) → LegibleItems xs → (r : List Char) →
    (toks : List Token) → ofChars r = some toks →
    ofChars (compactItems xs ++ r) = some (Tree.tokensOfItems (spelledItems xs) ++ toks)
  | [], _, _, _, h => Token.ofChars_mark rfl rfl h
  | [x], hxs, r, toks, h => by
    have hclose := Token.ofChars_mark (c := ']') rfl rfl h
    have hitem := ofChars_compact x hxs.1 _ _ (ends_of_isNumeral rfl r) hclose
    simpa [compactItems, spelledItems, Tree.tokensOfItems, Tree.moreItems] using hitem
  | x :: y :: xs, hxs, r, toks, h => by
    have hmore := ofChars_compactItems (y :: xs) hxs.2 r toks h
    have hcomma := Token.ofChars_mark (c := ',') rfl rfl hmore
    have hitem := ofChars_compact x hxs.1 _ _ (ends_of_isNumeral rfl _) hcomma
    simpa [compactItems, spelledItems, Tree.tokensOfItems, Tree.moreItems] using hitem
theorem ofChars_compactMembers : (ms : List (String × Json)) → LegibleMembers ms →
    (r : List Char) → (toks : List Token) → ofChars r = some toks →
    ofChars (compactMembers ms ++ r) = some (Tree.tokensOfMembers (spelledMembers ms) ++ toks)
  | [], _, _, _, h => Token.ofChars_mark rfl rfl h
  | [(n, x)], hms, r, toks, h => by
    have hclose := Token.ofChars_mark (c := '\x7d') rfl rfl h
    have hvalue := ofChars_compact x hms.1 _ _ (ends_of_isNumeral rfl r) hclose
    have hcolon := Token.ofChars_mark (c := ':') rfl rfl hvalue
    have hmember := Token.ofChars_quote n hcolon
    simpa [compactMembers, spelledMembers, Tree.tokensOfMembers, Tree.moreMembers] using hmember
  | (n, x) :: m :: ms, hms, r, toks, h => by
    have hmore := ofChars_compactMembers (m :: ms) hms.2 r toks h
    have hcomma := Token.ofChars_mark (c := ',') rfl rfl hmore
    have hvalue := ofChars_compact x hms.1 _ _ (ends_of_isNumeral rfl _) hcomma
    have hcolon := Token.ofChars_mark (c := ':') rfl rfl hvalue
    have hmember := Token.ofChars_quote n hcolon
    simpa [compactMembers, spelledMembers, Tree.tokensOfMembers, Tree.moreMembers] using hmember
end

theorem read_compact {v : Json} (hv : v.Legible) : Tree.read v.compact = some v.spelled := by
  have hnil : ofChars [] = some [] := rfl
  have htokens := ofChars_compact v hv [] [] (by rintro c ⟨⟩) hnil
  rw [List.append_nil, List.append_nil] at htokens
  rw [Tree.read, compact, String.toList_ofList, htokens]
  exact Tree.ofTokens_tokens _

/-! ### Texts over several lines -/

theorem ofChars_newLine (depth : ℕ) (h : ofChars r = some toks) :
    ofChars (newLine depth ++ r) = some toks := by
  have hspaces (n : ℕ) : ofChars (List.replicate n ' ' ++ r) = some toks := by
    induction n with
    | zero => exact h
    | succ n ih => exact Token.ofChars_space rfl ih
  exact Token.ofChars_space rfl (hspaces (2 * depth))

theorem ends_newLine (depth : ℕ) (r : List Char) : Ends (newLine depth ++ r) :=
  ends_of_isNumeral rfl _

mutual
/-- The laid out text of a value has the same tokens. -/
theorem ofChars_pretty : (v : Json) → v.Legible → (depth : ℕ) → (r : List Char) →
    (toks : List Token) → Ends r → ofChars r = some toks →
    ofChars (prettyChars depth v ++ r) = some (v.spelled.tokens ++ toks)
  | list [], _, _, _, _, _, h => Token.ofChars_mark rfl rfl (Token.ofChars_mark rfl rfl h)
  | list (x :: xs), hv, depth, r, toks, _, h => by
    obtain ⟨hends, hmore⟩ := ofChars_prettyItems xs hv.2 depth r toks h
    have hitem := ofChars_pretty x hv.1 (depth + 1) _ _ hends hmore
    have hline := ofChars_newLine (depth + 1) hitem
    have hopen := Token.ofChars_mark (c := '[') rfl rfl hline
    simpa [prettyChars, spelled, spelledItems, Tree.tokens] using hopen
  | record [], _, _, _, _, _, h => Token.ofChars_mark rfl rfl (Token.ofChars_mark rfl rfl h)
  | record ((n, x) :: ms), hv, depth, r, toks, _, h => by
    obtain ⟨hends, hmore⟩ := ofChars_prettyMembers ms hv.2 depth r toks h
    have hvalue := ofChars_pretty x hv.1 (depth + 1) _ _ hends hmore
    have hcolon := Token.ofChars_mark (c := ':') rfl rfl (Token.ofChars_space (c := ' ') rfl hvalue)
    have hline := ofChars_newLine (depth + 1) (Token.ofChars_quote n hcolon)
    have hopen := Token.ofChars_mark (c := '\x7b') rfl rfl hline
    simpa [prettyChars, spelled, spelledMembers, Tree.tokens] using hopen
  | null, hv, _, _, _, hr, h => ofChars_leaf hv (by simp) (by simp) hr h
  | bool _, hv, _, _, _, hr, h => ofChars_leaf hv (by simp) (by simp) hr h
  | whole _, hv, _, _, _, hr, h => ofChars_leaf hv (by simp) (by simp) hr h
  | real _, hv, _, _, _, hr, h => ofChars_leaf hv (by simp) (by simp) hr h
  | real32 _, hv, _, _, _, hr, h => ofChars_leaf hv (by simp) (by simp) hr h
  | text _, hv, _, _, _, hr, h => ofChars_leaf hv (by simp) (by simp) hr h
theorem ofChars_prettyItems : (xs : List Json) → LegibleItems xs → (depth : ℕ) →
    (r : List Char) → (toks : List Token) → ofChars r = some toks →
    Ends (prettyItems depth xs ++ r) ∧
      ofChars (prettyItems depth xs ++ r) = some (Tree.moreItems (spelledItems xs) ++ toks)
  | [], _, depth, r, toks, h => by
    have hclose := ofChars_newLine depth (Token.ofChars_mark (c := ']') rfl rfl h)
    rw [prettyItems, List.append_assoc]
    exact ⟨ends_newLine depth _, hclose⟩
  | x :: xs, hxs, depth, r, toks, h => by
    obtain ⟨hends, hmore⟩ := ofChars_prettyItems xs hxs.2 depth r toks h
    have hitem := ofChars_pretty x hxs.1 (depth + 1) _ _ hends hmore
    have hcomma := Token.ofChars_mark (c := ',') rfl rfl (ofChars_newLine (depth + 1) hitem)
    refine ⟨ends_of_isNumeral rfl _, ?_⟩
    simpa [prettyItems, spelledItems, Tree.moreItems] using hcomma
theorem ofChars_prettyMembers : (ms : List (String × Json)) → LegibleMembers ms → (depth : ℕ) →
    (r : List Char) → (toks : List Token) → ofChars r = some toks →
    Ends (prettyMembers depth ms ++ r) ∧
      ofChars (prettyMembers depth ms ++ r) = some (Tree.moreMembers (spelledMembers ms) ++ toks)
  | [], _, depth, r, toks, h => by
    have hclose := ofChars_newLine depth (Token.ofChars_mark (c := '\x7d') rfl rfl h)
    rw [prettyMembers, List.append_assoc]
    exact ⟨ends_newLine depth _, hclose⟩
  | (n, x) :: ms, hms, depth, r, toks, h => by
    obtain ⟨hends, hmore⟩ := ofChars_prettyMembers ms hms.2 depth r toks h
    have hvalue := ofChars_pretty x hms.1 (depth + 1) _ _ hends hmore
    have hcolon := Token.ofChars_mark (c := ':') rfl rfl (Token.ofChars_space (c := ' ') rfl hvalue)
    have hline := ofChars_newLine (depth + 1) (Token.ofChars_quote n hcolon)
    have hcomma := Token.ofChars_mark (c := ',') rfl rfl hline
    refine ⟨ends_of_isNumeral rfl _, ?_⟩
    simpa [prettyMembers, spelledMembers, Tree.moreMembers] using hcomma
end

theorem read_pretty {v : Json} (hv : v.Legible) : Tree.read v.pretty = some v.spelled := by
  have hnil : ofChars [] = some [] := rfl
  have htokens := ofChars_pretty v hv 0 [] [] (by rintro c ⟨⟩) hnil
  rw [List.append_nil, List.append_nil] at htokens
  rw [Tree.read, pretty, String.toList_ofList, htokens]
  exact Tree.ofTokens_tokens _

end

end CodeHealth.Json
