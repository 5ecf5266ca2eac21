import CodeHealth.Fix
import CodeHealth.Proofs.Number.Digits
import Mathlib

/-! Diffs can be read back. A diff is made of rows, each ended by a line feed, and a block of rows for
each change is ended by an empty row. No other row is empty, and none of the lines of code has a line
feed; so the blocks and their rows are found by these endings alone, whatever the code looks like, and
the first character of a row after the header says on which side of the change it stands. -/

namespace CodeHealth

open Number (ofDecimals isDecimal)

namespace Text

theorem not_mem_of_mem_linesOf {cs l : List Char} (hl : l ∈ linesOf cs) : '\n' ∉ l := by
  fun_induction linesOf cs generalizing l with
  | case1 => contradiction
  | case2 r ih =>
    rcases List.mem_cons.1 hl with rfl | hl
    · exact List.not_mem_nil
    · exact ih hl
  | case3 r ih =>
    rcases List.mem_cons.1 hl with rfl | hl
    · exact List.not_mem_nil
    · exact ih hl
  | case4 c r hfeed hreturn hnone ih =>
    obtain rfl := List.mem_singleton.1 hl
    exact fun hmem => hfeed (List.mem_singleton.1 hmem).symm
  | case5 c r hfeed hreturn first rest hrest ih =>
    rw [hrest] at ih
    rcases List.mem_cons.1 hl with rfl | hl
    · exact List.not_mem_cons_of_ne_of_not_mem (fun heq => hfeed heq.symm) (ih List.mem_cons_self)
    · exact ih (List.mem_cons_of_mem _ hl)

end Text

namespace Diff

/-! ### Reading -/

/-- The parts of a list that are ended by the separator. -/
def ended {α : Type} [BEq α] (sep : α) (l : List α) : List (List α) := (l.splitOn sep).dropLast

structure Hunk where
  path : String
  start : ℕ
  oldCount : ℕ
  newCount : ℕ
  removed : List String
  added : List String
  deriving DecidableEq

/-- The two numbers of a range behind its sign. -/
def range? (sign : Char) : List Char → Option (ℕ × ℕ)
  | [] => none
  | s :: r =>
    match r.splitOn ',' with
    | [first, count] => if s = sign then some (ofDecimals first, ofDecimals count) else none
    | _ => none

/-- The ranges of both sides. -/
def ranges? (row : List Char) : Option ((ℕ × ℕ) × (ℕ × ℕ)) :=
  match row.splitOn ' ' with
  | [['@', '@'], old, new, ['@', '@']] => do some (← range? '-' old, ← range? '+' new)
  | _ => none

/-- The code in the rows with the given mark. -/
def marked (mark : Char) (rows : List (List Char)) : List String :=
  (rows.filter (·.head? == some mark)).map fun row => String.ofList row.tail

def hunk? : List (List Char) → Option Hunk
  | ('-' :: '-' :: '-' :: ' ' :: 'a' :: '/' :: path) :: _ :: third :: rest => do
    let (old, new) ← ranges? third
    some ⟨String.ofList path, old.1, old.2, new.2, marked '-' rest, marked '+' rest⟩
  | _ => none

/-- The changes that a diff shows. -/
def read (s : String) : Option (List Hunk) :=
  (ended [] (ended '\n' s.toList)).mapM hunk?

theorem ended_flatMap {α : Type} [BEq α] [LawfulBEq α] {sep : α} {parts : List (List α)}
    (h : ∀ part ∈ parts, sep ∉ part) : ended sep (parts.flatMap (· ++ [sep])) = parts := by
  have hsplit : (parts.flatMap (· ++ [sep])).splitOn sep = parts ++ [[]] := by
    induction parts with
    | nil => rfl
    | cons part parts ih =>
      obtain ⟨hpart, hparts⟩ := List.forall_mem_cons.1 h
      rw [List.flatMap_cons, List.append_assoc, List.singleton_append,
        List.splitOn_append_cons_self_of_not_mem hpart, ih hparts, List.cons_append]
  rw [ended, hsplit, List.dropLast_concat]

/-! ### Blocks -/

/-- A whole number kept within 32 bits. -/
def clamp (i : ℤ) : ℕ := (max 0 (min i (2 ^ 32 - 1))).toNat

theorem clamp_lt (i : ℤ) : clamp i < 2 ^ 32 := by
  unfold clamp
  omega

theorem span_eq (c : CodeChange) :
    c.span = clamp (clamp (c.endLine.toNat + 1) - c.startLine.toNat) := by
  have hclamp (a b : ℕ) : min (a + 1) 4294967295 - b = clamp (clamp (a + 1) - b) := by
    unfold clamp
    omega
  exact hclamp c.endLine.toNat c.startLine.toNat

def rangesRow (start oldCount newCount : ℕ) : List Char :=
  [' '].intercalate [['@', '@'],
    '-' :: [','].intercalate [Nat.toDigits 10 start, Nat.toDigits 10 oldCount],
    '+' :: [','].intercalate [Nat.toDigits 10 start, Nat.toDigits 10 newCount], ['@', '@']]

/-- The rows of a change, before the empty one. -/
def block (c : CodeChange) : List (List Char) :=
  [("--- a/".toList ++ c.filePath.toList), ("+++ b/".toList ++ c.filePath.toList),
    rangesRow c.startLine.toNat c.span (Text.lines c.newCode).length] ++
  ((Text.linesOf c.oldCode.toList).map ('-' :: ·) ++ (Text.linesOf c.newCode.toList).map ('+' :: ·))

theorem toList_header (c : CodeChange) : c.header.toList =
    [("--- a/".toList ++ c.filePath.toList), ("+++ b/".toList ++ c.filePath.toList),
      rangesRow c.startLine.toNat c.span (Text.lines c.newCode).length].flatMap (· ++ ['\n']) := by
  have hdigits (n : ℕ) : (toString n).toList = Nat.toDigits 10 n := Nat.toList_repr
  unfold CodeChange.header rangesRow
  generalize c.span = span
  simp only [String.toList_append, hdigits]
  simp

theorem toList_marked (mark : Char) (code : String) :
    (CodeChange.marked (String.ofList [mark]) code).toList =
      ((Text.linesOf code.toList).map (mark :: ·)).flatMap (· ++ ['\n']) := by
  simp [CodeChange.marked, Text.lines, String.toList_join, List.flatMap_map]

theorem toList_diff (c : CodeChange) :
    c.diff.toList = (block c ++ [[]]).flatMap (· ++ ['\n']) := by
  have hold : (CodeChange.marked "-" c.oldCode).toList = _ := toList_marked '-' c.oldCode
  have hnew : (CodeChange.marked "+" c.newCode).toList = _ := toList_marked '+' c.newCode
  rw [CodeChange.diff, String.toList_append, String.toList_append, String.toList_append,
    toList_header, hold, hnew, block, List.flatMap_append, List.flatMap_append, List.flatMap_append]
  simp

/-! ### Rows -/

theorem not_mem_toDigits {c : Char} (hc : isDecimal c = false) (n : ℕ) :
    c ∉ Nat.toDigits 10 n := by
  intro hmem
  have hdecimal := Number.isDecimal_of_mem_toDigits hmem
  rw [hc] at hdecimal
  contradiction

theorem not_mem_pair {c : Char} (hc : isDecimal c = false) (hcomma : c ≠ ',') (a b : ℕ) :
    c ∉ [','].intercalate [Nat.toDigits 10 a, Nat.toDigits 10 b] := by
  simp [not_mem_toDigits hc, hcomma]

theorem not_mem_rangesRow (start oldCount newCount : ℕ) :
    '\n' ∉ rangesRow start oldCount newCount := by
  simp [rangesRow, not_mem_toDigits (c := '\n') rfl]

theorem range?_pair (sign : Char) (a b : ℕ) :
    range? sign (sign :: [','].intercalate [Nat.toDigits 10 a, Nat.toDigits 10 b]) =
      some (a, b) := by
  have hdigits : ∀ ds ∈ [Nat.toDigits 10 a, Nat.toDigits 10 b], ',' ∉ ds := by
    simp [not_mem_toDigits (c := ',') rfl]
  rw [range?, List.splitOn_intercalate ',' hdigits (List.cons_ne_nil _ _)]
  simp [Number.ofDecimals_toDigits]

theorem ranges?_rangesRow (start oldCount newCount : ℕ) :
    ranges? (rangesRow start oldCount newCount) = some ((start, oldCount), (start, newCount)) := by
  have hparts : ∀ part ∈ [['@', '@'],
      '-' :: [','].intercalate [Nat.toDigits 10 start, Nat.toDigits 10 oldCount],
      '+' :: [','].intercalate [Nat.toDigits 10 start, Nat.toDigits 10 newCount], ['@', '@']],
      ' ' ∉ part := by
    have hpair := not_mem_pair (c := ' ') rfl (by decide)
    simp only [List.forall_mem_cons]
    exact ⟨by decide, List.not_mem_cons_of_ne_of_not_mem (by decide) (hpair _ _),
      List.not_mem_cons_of_ne_of_not_mem (by decide) (hpair _ _), by decide, nofun⟩
  rw [ranges?, rangesRow, List.splitOn_intercalate ' ' hparts (List.cons_ne_nil _ _)]
  simp only [range?_pair, Option.bind_eq_bind, Option.bind_some]

theorem not_mem_block {c : CodeChange} (hpath : '\n' ∉ c.filePath.toList) :
    ∀ row ∈ block c, '\n' ∉ row := by
  have hcode (mark : Char) (hmark : '\n' ≠ mark) (cs : List Char) :
      ∀ row ∈ (Text.linesOf cs).map (mark :: ·), '\n' ∉ row := by
    rw [List.forall_mem_map]
    exact fun l hl => List.not_mem_cons_of_ne_of_not_mem hmark (Text.not_mem_of_mem_linesOf hl)
  rw [block, List.forall_mem_append, List.forall_mem_append]
  refine ⟨?_, hcode '-' (by decide) _, hcode '+' (by decide) _⟩
  simp only [List.forall_mem_cons]
  exact ⟨List.not_mem_append (by decide) hpath, List.not_mem_append (by decide) hpath,
    not_mem_rangesRow _ _ _, nofun⟩

theorem nil_not_mem_block (c : CodeChange) : [] ∉ block c := by
  simp [block, rangesRow]

theorem marked_append (mark : Char) (rows rows' : List (List Char)) :
    marked mark (rows ++ rows') = marked mark rows ++ marked mark rows' := by
  simp [marked]

theorem marked_self (mark : Char) (rows : List (List Char)) :
    marked mark (rows.map (mark :: ·)) = rows.map String.ofList := by
  induction rows with
  | nil => rfl
  | cons row rows ih => simpa [marked] using ih

theorem marked_other {mark other : Char} (h : other ≠ mark) (rows : List (List Char)) :
    marked mark (rows.map (other :: ·)) = [] := by
  simp [marked, h]

/-- What a diff shows of a change. -/
def shown (c : CodeChange) : Hunk where
  path := c.filePath
  start := c.startLine.toNat
  oldCount := clamp (clamp (c.endLine.toNat + 1) - c.startLine.toNat)
  newCount := (Text.lines c.newCode).length
  removed := Text.lines c.oldCode
  added := Text.lines c.newCode

theorem hunk?_block (c : CodeChange) : hunk? (block c) = some (shown c) := by
  have hpath : "--- a/".toList ++ c.filePath.toList =
      '-' :: '-' :: '-' :: ' ' :: 'a' :: '/' :: c.filePath.toList := rfl
  have hold : marked '-' ((Text.linesOf c.oldCode.toList).map ('-' :: ·) ++
      (Text.linesOf c.newCode.toList).map ('+' :: ·)) = Text.lines c.oldCode := by
    rw [marked_append, marked_self, marked_other (by decide), List.append_nil, Text.lines]
  have hnew : marked '+' ((Text.linesOf c.oldCode.toList).map ('-' :: ·) ++
      (Text.linesOf c.newCode.toList).map ('+' :: ·)) = Text.lines c.newCode := by
    rw [marked_append, marked_self, marked_other (by decide), List.nil_append, Text.lines]
  rw [block, hpath, List.cons_append, List.cons_append, List.cons_append, List.nil_append, hunk?,
    ranges?_rangesRow, hold, hnew, span_eq, String.ofList_toList]
  rfl

/-! ### Whole diffs -/

theorem toList_diff_fix (f : Fix) :
    f.diff.toList = ((f.changes.map block).flatMap (· ++ [[]])).flatMap (· ++ ['\n']) := by
  have hdiff : f.diff.toList = f.changes.flatMap fun c => c.diff.toList := by
    simp [Fix.diff, String.toList_join, List.flatMap_map]
  rw [hdiff, List.flatMap_map, List.flatMap_assoc]
  exact congrArg (List.flatMap · f.changes) (funext toList_diff)

/-- The blocks of a diff are found by the empty rows. -/
theorem ended_diff {f : Fix} (h : ∀ c ∈ f.changes, '\n' ∉ c.filePath.toList) :
    ended [] (ended '\n' f.diff.toList) = f.changes.map block := by
  have hrows : ∀ row ∈ (f.changes.map block).flatMap (· ++ [[]]), '\n' ∉ row := by
    simp only [List.mem_flatMap, List.mem_map]
    rintro row ⟨-, ⟨c, hc, rfl⟩, hrow⟩
    rcases List.mem_append.1 hrow with hrow | hrow
    · exact not_mem_block (h c hc) row hrow
    · rw [List.mem_singleton.1 hrow]
      exact List.not_mem_nil
  have hblocks : ∀ rows ∈ f.changes.map block, [] ∉ rows := by
    rw [List.forall_mem_map]
    exact fun c _ => nil_not_mem_block c
  rw [toList_diff_fix, ended_flatMap hrows, ended_flatMap hblocks]

theorem read_diff {f : Fix} (h : ∀ c ∈ f.changes, '\n' ∉ c.filePath.toList) :
    read f.diff = some (f.changes.map shown) := by
  rw [read, ended_diff h]
  induction f.changes with
  | nil => rfl
  | cons c cs ih => simp [hunk?_block, ih]

end Diff

/-- The diff of a fix consists of its changes, one block each and in order. If no path has a line feed,
the diff tells of each change the path, the first line, and the lines of code on both sides; the count
of the new side is the number of the lines shown on it, and that of the old side is taken from the line
numbers, kept within 32 bits at each step. -/
theorem Fix.diff_tells_changes (f : Fix) (h : ∀ c ∈ f.changes, '\n' ∉ c.filePath.toList) :
    (f.diff.toList = f.changes.flatMap fun c => (Diff.block c ++ [[]]).flatMap (· ++ ['\n'])) ∧
    ∃ hunks, Diff.read f.diff = some hunks ∧
      hunks.map Diff.Hunk.path = f.changes.map CodeChange.filePath ∧
      hunks.map Diff.Hunk.start = f.changes.map (·.startLine.toNat) ∧
      hunks.map Diff.Hunk.removed = f.changes.map (fun c => Text.lines c.oldCode) ∧
      hunks.map Diff.Hunk.added = f.changes.map (fun c => Text.lines c.newCode) ∧
      (∀ hunk ∈ hunks, hunk.newCount = hunk.added.length ∧ hunk.oldCount < 2 ^ 32) ∧
      hunks.map Diff.Hunk.oldCount = f.changes.map fun c =>
        Diff.clamp (Diff.clamp (c.endLine.toNat + 1) - c.startLine.toNat) := by
  refine ⟨?_, f.changes.map Diff.shown, Diff.read_diff h, ?_, ?_, ?_, ?_, ?_, ?_⟩
  · rw [Diff.toList_diff_fix, List.flatMap_map, List.flatMap_assoc]
  · exact List.map_map
  · exact List.map_map
  · exact List.map_map
  · exact List.map_map
  · rw [List.forall_mem_map]
    exact fun c _ => ⟨rfl, Diff.clamp_lt _⟩
  · exact List.map_map

/-- A fix whose code looks like headers, ranges and ends of blocks, with line numbers at both ends. -/
def deceptiveFix : Fix where
  id := "x"
  findingIds := []
  repositoryId := none
  fixType := none
  confidence := .low
  status := .pending
  title := ""
  description := ""
  rationale := ""
  changes :=
    [⟨"a b", "-- a/c\r\n\n@@ -1,1 +1,1 @@", "\n++ b/c\n", 4294967295, 0, ""⟩,
      ⟨"", "", "", 0, 4294967295, ""⟩]
  createdAt := none

theorem diff_tells_deceptiveFix :
    (∀ c ∈ deceptiveFix.changes, '\n' ∉ c.filePath.toList) ∧
    ∃ hunks, Diff.read deceptiveFix.diff = some hunks ∧
      hunks.map Diff.Hunk.removed = [["-- a/c", "", "@@ -1,1 +1,1 @@"], []] ∧
      hunks.map Diff.Hunk.oldCount = [0, 4294967295] := by
  have hpaths : ∀ c ∈ deceptiveFix.changes, '\n' ∉ c.filePath.toList := by decide
  obtain ⟨-, hunks, hread, -, -, hremoved, -, -, hcount⟩ :=
    Fix.diff_tells_changes deceptiveFix hpaths
  exact ⟨hpaths, hunks, hread, hremoved.trans (by decide), hcount.trans (by decide)⟩

end CodeHealth
