import CodeHealth.Service.Script
import Mathlib

/-! What path patterns stand for. A pattern is compiled to a search expression: its parts between
stars are escaped, a run of any characters but line feeds stands between them, and the whole is
anchored at both ends. The paths that the expression matches, those that are accepted, and those that
the pattern gives when each star is replaced by such a run, are the same. -/

namespace CodeHealth

namespace Text.Glob

/-- The pattern with its stars replaced by the runs, one after the other. -/
def replaceStars : List Char → List (List Char) → List Char
  | '*' :: p, run :: runs => run ++ replaceStars p runs
  | k :: p, runs => k :: replaceStars p runs
  | [], _ => []

/-- The path is the pattern with a run without line feeds in place of each star. -/
def Spells (pattern path : List Char) : Prop :=
  ∃ runs : List (List Char), runs.length = pattern.count '*' ∧ (∀ run ∈ runs, '\n' ∉ run) ∧
    path = replaceStars pattern runs

theorem replaceStars_star (p run : List Char) (runs : List (List Char)) :
    replaceStars ('*' :: p) (run :: runs) = run ++ replaceStars p runs := by
  rw [replaceStars]

theorem replaceStars_literal {k : Char} (hk : k ≠ '*') (p : List Char) (runs : List (List Char)) :
    replaceStars (k :: p) runs = k :: replaceStars p runs := by
  rw [replaceStars]
  exact fun _ _ _ => hk

theorem spells_star {p s : List Char} :
    Spells ('*' :: p) s ↔ ∃ run rest, s = run ++ rest ∧ '\n' ∉ run ∧ Spells p rest := by
  constructor
  · rintro ⟨runs, hcount, hruns, rfl⟩
    rw [List.count_cons_self] at hcount
    obtain ⟨run, runs, rfl⟩ := List.exists_cons_of_length_eq_add_one hcount
    obtain ⟨hrun, hruns⟩ := List.forall_mem_cons.1 hruns
    exact ⟨run, replaceStars p runs, replaceStars_star p run runs, hrun, runs, by simpa using hcount,
      hruns, rfl⟩
  · rintro ⟨run, rest, rfl, hrun, runs, hcount, hruns, rfl⟩
    refine ⟨run :: runs, ?_, List.forall_mem_cons.2 ⟨hrun, hruns⟩,
      (replaceStars_star p run runs).symm⟩
    rw [List.length_cons, hcount, List.count_cons_self]

theorem spells_literal {k : Char} (hk : k ≠ '*') {p s : List Char} :
    Spells (k :: p) s ↔ ∃ rest, s = k :: rest ∧ Spells p rest := by
  have hcount : (k :: p).count '*' = p.count '*' := List.count_cons_of_ne hk
  constructor
  · rintro ⟨runs, hlength, hruns, rfl⟩
    exact ⟨_, replaceStars_literal hk p runs, runs, hcount ▸ hlength, hruns, rfl⟩
  · rintro ⟨rest, rfl, runs, hlength, hruns, rfl⟩
    exact ⟨runs, hcount ▸ hlength, hruns, (replaceStars_literal hk p runs).symm⟩

/-! ### Expressions -/

inductive Piece where
  | literal (c : Char)
  | anyRun
  deriving DecidableEq

namespace Piece

/-- The pieces match the text from its first character to its last. -/
def Match : List Piece → List Char → Prop
  | [], s => s = []
  | .literal c :: e, s => ∃ rest, s = c :: rest ∧ Match e rest
  | .anyRun :: e, s => ∃ run rest, s = run ++ rest ∧ '\n' ∉ run ∧ Match e rest

def ofChar (k : Char) : Piece := if k = '*' then anyRun else literal k

theorem match_anyRun_nil {e : List Piece} : Match (.anyRun :: e) [] ↔ Match e [] := by
  constructor
  · rintro ⟨run, rest, hempty, -, hrest⟩
    obtain ⟨-, rfl⟩ := List.append_eq_nil_iff.1 hempty.symm
    exact hrest
  · intro h
    exact ⟨[], [], rfl, List.not_mem_nil, h⟩

/-- A run is over at once, or it goes on with the next character. -/
theorem match_anyRun_cons {e : List Piece} {c : Char} {s : List Char} :
    Match (.anyRun :: e) (c :: s) ↔ Match e (c :: s) ∨ c ≠ '\n' ∧ Match (.anyRun :: e) s := by
  constructor
  · rintro ⟨run, rest, hs, hrun, hrest⟩
    cases run with
    | nil =>
      rw [hs]
      exact .inl hrest
    | cons d run =>
      obtain ⟨rfl, rfl⟩ := List.cons.inj hs
      obtain ⟨hd, hrun⟩ := List.ne_and_not_mem_of_not_mem_cons hrun
      exact .inr ⟨hd.symm, run, rest, rfl, hrun, hrest⟩
  · rintro (h | ⟨hc, run, rest, rfl, hrun, hrest⟩)
    · exact ⟨[], c :: s, rfl, List.not_mem_nil, h⟩
    · exact ⟨c :: run, rest, rfl, List.not_mem_cons_of_ne_of_not_mem hc.symm hrun, hrest⟩

theorem match_literal_nil {e : List Piece} {k : Char} : ¬ Match (.literal k :: e) [] := by
  rintro ⟨rest, hempty, -⟩
  contradiction

theorem match_literal_cons {e : List Piece} {k c : Char} {s : List Char} :
    Match (.literal k :: e) (c :: s) ↔ k = c ∧ Match e s := by
  constructor
  · rintro ⟨rest, hs, hrest⟩
    obtain ⟨rfl, rfl⟩ := List.cons.inj hs
    exact ⟨rfl, hrest⟩
  · rintro ⟨rfl, h⟩
    exact ⟨s, rfl, h⟩

/-- What the pieces of a pattern match is what the pattern spells. -/
theorem match_map_ofChar {p s : List Char} : Match (p.map ofChar) s ↔ Spells p s := by
  induction p generalizing s with
  | nil =>
    constructor
    · rintro rfl
      exact ⟨[], rfl, List.forall_mem_nil _, rfl⟩
    · rintro ⟨runs, -, -, rfl⟩
      rfl
  | cons k p ih =>
    by_cases hk : k = '*'
    · subst hk
      simp only [List.map_cons, ofChar, if_true, Match, spells_star, ih]
    · simp only [List.map_cons, ofChar, if_neg hk, Match, spells_literal hk, ih]

end Piece

open Piece (Match ofChar)

theorem accepts_iff_match (p s : List Char) : accepts p s = true ↔ Match (p.map ofChar) s := by
  fun_induction accepts p s with
  | case1 => simp [Match]
  | case2 => simp [Match]
  | case3 k p ih =>
    by_cases hk : k = '*'
    · simp [hk, ofChar, Piece.match_anyRun_nil, ih]
    · simp [hk, ofChar, Piece.match_literal_nil]
  | case4 p c s ihp ihs =>
    have hstar : ofChar '*' = .anyRun := rfl
    simp only [Bool.or_eq_true, Bool.and_eq_true, bne_iff_ne, ihp, ihs, List.map_cons, hstar,
      Piece.match_anyRun_cons]
  | case5 k p c s hk ih =>
    simp only [Bool.and_eq_true, beq_iff_eq, ih, List.map_cons, ofChar, if_neg hk,
      Piece.match_literal_cons]

/-- A pattern accepts what it spells. -/
theorem accepts_iff_spells (p s : List Char) : accepts p s = true ↔ Spells p s :=
  (accepts_iff_match p s).trans Piece.match_map_ofChar

instance (p s : List Char) : Decidable (Spells p s) :=
  decidable_of_iff _ (accepts_iff_spells p s)

/-- Without stars a pattern spells itself. -/
theorem spells_iff_eq {p s : List Char} (hp : '*' ∉ p) : Spells p s ↔ s = p := by
  induction p generalizing s with
  | nil => exact Piece.match_map_ofChar.symm
  | cons k p ih =>
    obtain ⟨hk, hp⟩ := List.ne_and_not_mem_of_not_mem_cons hp
    simp only [spells_literal hk.symm, ih hp, exists_eq_right]

theorem spells_append {p q s : List Char} :
    Spells (p ++ q) s ↔ ∃ first second, s = first ++ second ∧ Spells p first ∧ Spells q second := by
  induction p generalizing s with
  | nil => simp [spells_iff_eq]
  | cons k p ih =>
    by_cases hk : k = '*'
    · subst hk
      simp only [List.cons_append, spells_star, ih]
      constructor
      · rintro ⟨run, -, rfl, hrun, first, second, rfl, hp, hq⟩
        exact ⟨run ++ first, second, (List.append_assoc ..).symm, ⟨run, first, rfl, hrun, hp⟩, hq⟩
      · rintro ⟨-, second, rfl, ⟨run, first, rfl, hrun, hp⟩, hq⟩
        exact ⟨run, first ++ second, List.append_assoc .., hrun, first, second, rfl, hp, hq⟩
    · simp only [List.cons_append, spells_literal hk, ih]
      constructor
      · rintro ⟨-, rfl, first, second, rfl, hp, hq⟩
        exact ⟨k :: first, second, rfl, ⟨first, rfl, hp⟩, hq⟩
      · rintro ⟨-, second, rfl, ⟨first, rfl, hp⟩, hq⟩
        exact ⟨first ++ second, rfl, first, second, rfl, hp, hq⟩

/-- Stars that follow each other spell what one star spells. -/
theorem spells_stars {n : ℕ} {s : List Char} :
    Spells (List.replicate (n + 1) '*') s ↔ '\n' ∉ s := by
  induction n generalizing s with
  | zero =>
    rw [List.replicate_one, spells_star]
    simp [spells_iff_eq]
  | succ n ih =>
    rw [List.replicate_succ, spells_star]
    simp only [ih]
    constructor
    · rintro ⟨run, rest, rfl, hrun, hrest⟩
      exact List.not_mem_append hrun hrest
    · intro hs
      exact ⟨[], s, rfl, List.not_mem_nil, hs⟩

theorem accepts_stars (p q s : List Char) (n : ℕ) :
    accepts (p ++ List.replicate (n + 1) '*' ++ q) s = accepts (p ++ ['*'] ++ q) s := by
  rw [Bool.eq_iff_iff, accepts_iff_spells, accepts_iff_spells]
  have hone (s : List Char) : Spells ['*'] s ↔ '\n' ∉ s := spells_stars (n := 0)
  simp only [spells_append, spells_stars, hone]

/-! ### Notation -/

/-- The characters that mean something else than themselves in an expression. -/
def metas : List Char :=
  ['\\', '.', '+', '*', '?', '(', ')', '|', '[', ']', '\x7b', '\x7d', '^', '$', '#', '&', '-', '~']

def escape (c : Char) : List Char := if c ∈ metas then ['\\', c] else [c]

/-- The text of the expression that a pattern is compiled to. -/
def source (pattern : List Char) : List Char :=
  '^' :: ['.', '*'].intercalate ((pattern.splitOn '*').map (·.flatMap escape)) ++ ['$']

/-- Reads the pieces of an expression up to its closing anchor. Anything else than plain characters,
escaped ones and runs is refused. -/
def pieces : List Char → Option (List Piece)
  | ['$'] => some []
  | '\\' :: c :: r => if c ∈ metas then (pieces r).map (.literal c :: ·) else none
  | '.' :: '*' :: r => (pieces r).map (.anyRun :: ·)
  | c :: r => if c ∈ metas then none else (pieces r).map (.literal c :: ·)
  | [] => none

def read : List Char → Option (List Piece)
  | '^' :: r => pieces r
  | _ => none

theorem pieces_escape (c : Char) (r : List Char) :
    pieces (escape c ++ r) = (pieces r).map (.literal c :: ·) := by
  unfold escape
  by_cases hc : c ∈ metas
  · rw [if_pos hc, List.cons_append, List.singleton_append, pieces, if_pos hc]
  · have hplain : ∀ k ∈ metas, c ≠ k := fun k hk heq => hc (heq ▸ hk)
    rw [if_neg hc, List.singleton_append, pieces, if_neg hc]
    · rintro rfl
      exact absurd rfl (hplain '$' (by decide))
    · rintro d s rfl
      exact absurd rfl (hplain '\\' (by decide))
    · rintro s rfl
      exact absurd rfl (hplain '.' (by decide))

/-- Escaping the parts between stars and putting runs between them is the same as going through the
pattern character by character. -/
theorem intercalate_splitOn_star (p : List Char) :
    ['.', '*'].intercalate ((p.splitOn '*').map (·.flatMap escape)) =
      p.flatMap fun k => if k = '*' then ['.', '*'] else escape k := by
  induction p with
  | nil => rfl
  | cons k p ih =>
    obtain ⟨part, parts, hparts⟩ := List.exists_cons_of_ne_nil (List.splitOn_ne_nil '*' p)
    rw [List.flatMap_cons, ← ih, List.splitOn_cons_eq_if_modifyHead, hparts]
    by_cases hk : k = '*'
    · simp [hk]
    · cases parts <;> simp [hk]

theorem pieces_flatMap (p : List Char) :
    pieces ((p.flatMap fun k => if k = '*' then ['.', '*'] else escape k) ++ ['$']) =
      some (p.map ofChar) := by
  induction p with
  | nil => rfl
  | cons k p ih =>
    rw [List.flatMap_cons, List.append_assoc, List.map_cons]
    by_cases hk : k = '*'
    · rw [if_pos hk, List.cons_append, List.singleton_append, pieces, ih, ofChar, if_pos hk]
      rfl
    · rw [if_neg hk, pieces_escape, ih, ofChar, if_neg hk]
      rfl

/-- Nothing in a pattern but its stars means anything else than itself. -/
theorem read_source (p : List Char) : read (source p) = some (p.map ofChar) := by
  rw [source, intercalate_splitOn_star]
  exact pieces_flatMap p

example : source "/a.b/*".toList = "^/a\\.b/.*$".toList := by decide

end Text.Glob

open Text.Glob (Spells source read Piece)

/-- A path pattern stands for the paths that it spells, which are those that the expression matches
that it is compiled to; only stars stand for something else than themselves, and several in a row for
the same as one. The requests to a method and a pattern are the logged ones with that method and such
a path, in the order of the log. -/
theorem Script.pattern_stands_for_paths :
    (∀ pattern path, Route.matchesPath pattern path ↔ Spells pattern.toList path.toList) ∧
    (∀ pattern, ∃ pieces, read (source pattern.toList) = some pieces ∧
      ∀ path : String, Piece.Match pieces path.toList ↔ Route.matchesPath pattern path) ∧
    (∀ pattern path, '*' ∉ pattern.toList → (Route.matchesPath pattern path ↔ path = pattern)) ∧
    (∀ (before after path : String) (n : ℕ),
      Route.matchesPath (before ++ String.ofList (List.replicate (n + 1) '*') ++ after) path =
        Route.matchesPath (before ++ "*" ++ after) path) ∧
    ∀ (s : Script) (method : Method) (pattern : String), s.requestsTo method pattern =
      s.log.filter fun r => r.method = method ∧ Spells pattern.toList r.path.toList := by
  have hmatches (pattern path : String) :
      Route.matchesPath pattern path ↔ Spells pattern.toList path.toList :=
    Text.Glob.accepts_iff_spells _ _
  refine ⟨hmatches, fun pattern => ?_, fun pattern path hplain => ?_, fun before after path n => ?_,
    fun s method pattern => ?_⟩
  · exact ⟨_, Text.Glob.read_source _, fun path => (Text.Glob.accepts_iff_match _ _).symm⟩
  · rw [hmatches, Text.Glob.spells_iff_eq hplain, String.toList_inj]
  · simpa [Route.matchesPath] using Text.Glob.accepts_stars before.toList after.toList path.toList n
  · refine List.filter_congr fun r _ => ?_
    rw [Bool.eq_iff_iff, Bool.and_eq_true, beq_iff_eq, hmatches, decide_eq_true_eq]

end CodeHealth
