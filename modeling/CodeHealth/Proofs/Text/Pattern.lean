import CodeHealth.Proofs.Text.Folding
import CodeHealth.Text.Word
import Mathlib

/-! Search patterns without repetition: what they match, regardless of case, and the notation that
they are written in. Such a pattern stands for finitely many words, and matches where one of them
is spelt. -/

namespace CodeHealth.Text

inductive Pattern where
  | empty
  | letter (k : Char)
  | edge
  | both (p q : Pattern)
  | either (p q : Pattern)

namespace Pattern

/-- The pattern matches the text `within`, as it stands between `before` and `after`. -/
def Matches : Pattern → (before within after : List Char) → Prop
  | empty, _, within, _ => within = []
  | letter k, _, within, _ => ∃ c, within = [c] ∧ simpleFold c = simpleFold k
  | edge, before, within, after => within = [] ∧ Word.isEdge before.getLast? after.head?
  | both p q, before, within, after => ∃ first second, within = first ++ second ∧
    p.Matches before first (second ++ after) ∧ q.Matches (before ++ first) second after
  | either p q, before, within, after =>
    p.Matches before within after ∨ q.Matches before within after

/-- The pattern matches some stretch of the text. -/
def OccursIn (p : Pattern) (s : String) : Prop :=
  ∃ before within after, s.toList = before ++ within ++ after ∧ p.Matches before within after

/-! ### Notation -/

inductive Token where
  | letter (k : Char)
  | edge
  | optional
  | bar
  | opening
  | closing

/-- The tokens of a pattern; a set of letters is a group that offers each of them. Other signs than
these, and letters that are not plain, are refused. -/
def tokens : (inSet : Bool) → List Char → Option (List Token)
  | _, [] => some []
  | false, '\\' :: 'b' :: r => (tokens false r).map (.edge :: ·)
  | false, '?' :: r => (tokens false r).map (.optional :: ·)
  | false, '|' :: r => (tokens false r).map (.bar :: ·)
  | false, '(' :: r => (tokens false r).map (.opening :: ·)
  | false, ')' :: r => (tokens false r).map (.closing :: ·)
  | false, '[' :: r => (tokens true r).map (.opening :: ·)
  | true, k :: ']' :: r =>
    if isPlain k then (tokens false r).map ([.letter k, .closing] ++ ·) else none
  | true, k :: r => if isPlain k then (tokens true r).map ([.letter k, .bar] ++ ·) else none
  | false, k :: r => if isPlain k then (tokens false r).map (.letter k :: ·) else none

/-- A group whose closing is still to come: the options before the last bar and what has been read
since, both the latest first. -/
structure Group where
  options : List Pattern
  items : List Pattern

namespace Group

def start : Group := ⟨[], []⟩

def add (g : Group) (p : Pattern) : Group := { g with items := p :: g.items }

def option (g : Group) : Pattern := g.items.foldl (fun rest p => p.both rest) .empty

def bar (g : Group) : Group := ⟨g.option :: g.options, []⟩

def close (g : Group) : Pattern := g.options.foldl (fun rest p => p.either rest) g.option

/-- The last item may be absent. -/
def relax (g : Group) : Option Group :=
  match g.items with
  | [] => none
  | p :: ps => some { g with items := p.either .empty :: ps }

end Group

/-- Reads on, in a group `g` inside of those in `outer`, the innermost first. -/
def parse (outer : List Group) (g : Group) : List Token → Option Pattern
  | [] => if outer.isEmpty then some g.close else none
  | .letter k :: r => parse outer (g.add (.letter k)) r
  | .edge :: r => parse outer (g.add .edge) r
  | .optional :: r => g.relax.bind fun g => parse outer g r
  | .bar :: r => parse outer g.bar r
  | .opening :: r => parse (g :: outer) .start r
  | .closing :: r =>
    match outer with
    | [] => none
    | h :: hs => parse hs (h.add g.close) r

def read (source : String) : Option Pattern :=
  (tokens false source.toList).bind (parse [] .start)

theorem read_ofList (cs : List Char) :
    read (String.ofList cs) = (tokens false cs).bind (parse [] .start) := by
  rw [read, String.toList_ofList]

/-! ### Words -/

inductive Mark where
  | letter (k : Char)
  | edge
deriving DecidableEq

def words : Pattern → List (List Mark)
  | empty => [[]]
  | letter k => [[.letter k]]
  | edge => [[.edge]]
  | both p q => p.words.flatMap fun u => q.words.map (u ++ ·)
  | either p q => p.words ++ q.words

/-- The word is spelt by `within`, as it stands between `before` and `after`. -/
def Spelt : List Mark → (before within after : List Char) → Prop
  | [], _, within, _ => within = []
  | .letter k :: word, before, within, after => ∃ c rest, within = c :: rest ∧
    simpleFold c = simpleFold k ∧ Spelt word (before ++ [c]) rest after
  | .edge :: word, before, within, after =>
    Word.isEdge before.getLast? (within ++ after).head? ∧ Spelt word before within after

theorem spelt_append (u v : List Mark) {before within after : List Char} :
    Spelt (u ++ v) before within after ↔ ∃ first second, within = first ++ second ∧
      Spelt u before first (second ++ after) ∧ Spelt v (before ++ first) second after := by
  induction u generalizing before within with
  | nil =>
    constructor
    · intro h
      exact ⟨[], within, rfl, rfl, by simpa using h⟩
    · rintro ⟨first, second, rfl, rfl, h⟩
      simpa using h
  | cons m u ih =>
    cases m with
    | letter k =>
      constructor
      · rintro ⟨c, rest, rfl, hc, hrest⟩
        obtain ⟨first, second, rfl, hfirst, hsecond⟩ := ih.1 hrest
        exact ⟨c :: first, second, rfl, ⟨c, first, rfl, hc, hfirst⟩, by simpa using hsecond⟩
      · rintro ⟨-, second, rfl, ⟨c, first, rfl, hc, hfirst⟩, hsecond⟩
        exact ⟨c, first ++ second, rfl, hc,
          ih.2 ⟨first, second, rfl, hfirst, by simpa using hsecond⟩⟩
    | edge =>
      constructor
      · rintro ⟨hedge, hrest⟩
        obtain ⟨first, second, rfl, hfirst, hsecond⟩ := ih.1 hrest
        rw [List.append_assoc] at hedge
        exact ⟨first, second, rfl, ⟨hedge, hfirst⟩, hsecond⟩
      · rintro ⟨first, second, rfl, ⟨hedge, hfirst⟩, hsecond⟩
        rw [← List.append_assoc] at hedge
        exact ⟨hedge, ih.2 ⟨first, second, rfl, hfirst, hsecond⟩⟩

/-- A pattern matches where one of its words is spelt. -/
theorem matches_iff_spelt {p : Pattern} {before within after : List Char} :
    p.Matches before within after ↔ ∃ word ∈ p.words, Spelt word before within after := by
  induction p generalizing before within after with
  | empty => simp [Matches, words, Spelt]
  | letter k => simp [Matches, words, Spelt]
  | edge =>
    constructor
    · rintro ⟨rfl, hedge⟩
      exact ⟨[.edge], List.mem_singleton_self _, hedge, rfl⟩
    · rintro ⟨word, hword, hspelt⟩
      obtain rfl := List.mem_singleton.1 hword
      obtain ⟨hedge, rfl⟩ := hspelt
      exact ⟨rfl, hedge⟩
  | both p q ihp ihq =>
    constructor
    · rintro ⟨first, second, rfl, hfirst, hsecond⟩
      obtain ⟨u, hu, hfirst⟩ := ihp.1 hfirst
      obtain ⟨v, hv, hsecond⟩ := ihq.1 hsecond
      exact ⟨u ++ v, List.mem_flatMap.2 ⟨u, hu, List.mem_map_of_mem hv⟩,
        (spelt_append u v).2 ⟨first, second, rfl, hfirst, hsecond⟩⟩
    · rintro ⟨word, hword, hspelt⟩
      obtain ⟨u, hu, hrest⟩ := List.mem_flatMap.1 hword
      obtain ⟨v, hv, rfl⟩ := List.mem_map.1 hrest
      obtain ⟨first, second, rfl, hfirst, hsecond⟩ := (spelt_append u v).1 hspelt
      exact ⟨first, second, rfl, ihp.2 ⟨u, hu, hfirst⟩, ihq.2 ⟨v, hv, hsecond⟩⟩
  | either p q ihp ihq => simp [Matches, words, ihp, ihq, or_and_right, exists_or]

/-- The word is spelt somewhere in the text. -/
def SpeltIn (word : List Mark) (s : String) : Prop :=
  ∃ before within after, s.toList = before ++ within ++ after ∧ Spelt word before within after

theorem occursIn_iff {p : Pattern} {s : String} :
    p.OccursIn s ↔ ∃ word ∈ p.words, SpeltIn word s := by
  constructor
  · rintro ⟨before, within, after, hs, h⟩
    obtain ⟨word, hword, hspelt⟩ := matches_iff_spelt.1 h
    exact ⟨word, hword, before, within, after, hs, hspelt⟩
  · rintro ⟨word, hword, before, within, after, hs, hspelt⟩
    exact ⟨before, within, after, hs, matches_iff_spelt.2 ⟨word, hword, hspelt⟩⟩

example : (read "a(b|c)?").map words =
    some [[.letter 'a', .letter 'b'], [.letter 'a', .letter 'c'], [.letter 'a']] := by
  decide +kernel

end Pattern

end CodeHealth.Text
