import CodeHealth.Proofs.Text.Pattern
import CodeHealth.Text.Phrase
import Mathlib

/-! The search for a phrase. A phrase stands for finitely many words, and it is found just where one
of them is spelt. The case of ASCII letters in the text that is searched does not matter. -/

namespace CodeHealth.Text

/-- The stretch is written with plain characters. -/
def Piece.isPlain : Piece → Bool
  | oneOf spellings => spellings.all fun w => w.all Text.isPlain
  | edge => true

namespace Phrase

open Pattern (Mark Spelt spelt_append SpeltIn)

def words : Phrase → List (List Mark)
  | [] => [[]]
  | .oneOf spellings :: ps =>
    spellings.flatMap fun w => (words ps).map (w.map Mark.letter ++ ·)
  | .edge :: ps => (words ps).map (.edge :: ·)

/-! ### One spelling -/

theorem spelt_letters {w : List Char} (h : w.all isPlain) {before within after : List Char} :
    Spelt (w.map Mark.letter) before within after ↔ within.map fold = w := by
  induction w generalizing before within with
  | nil => simp [Spelt]
  | cons k w ih =>
    obtain ⟨hk, hw⟩ : isPlain k ∧ w.all isPlain := by simpa using h
    rw [List.map_eq_cons_iff]
    refine exists_congr fun c => exists_congr fun rest => and_congr_right fun _ => ?_
    rw [simpleFold_eq_iff hk]
    exact and_congr_right fun _ => ih hw

theorem skip_eq_some_iff {w before cs after : List Char} {left : Option Char} :
    skip w before.getLast? cs = some (left, after) ↔
      ∃ within, cs = within ++ after ∧ within.map fold = w ∧
        left = (before ++ within).getLast? := by
  induction w generalizing before cs with
  | nil => simp [skip, eq_comm, and_comm]
  | cons k w ih =>
    cases cs with
    | nil => simp [skip]
    | cons c cs =>
      have hlast : some c = (before ++ [c]).getLast? := List.getLast?_concat.symm
      rw [skip]
      split_ifs with hc
      · rw [hlast, ih]
        constructor
        · rintro ⟨within, rfl, rfl, rfl⟩
          exact ⟨c :: within, rfl, by rw [List.map_cons, hc], by simp⟩
        · rintro ⟨within, hcs, hw, rfl⟩
          obtain ⟨d, later, rfl, -, hlater⟩ := List.map_eq_cons_iff.1 hw
          obtain ⟨rfl, rfl⟩ := List.cons.inj hcs
          exact ⟨later, rfl, hlater, by simp⟩
      · refine iff_of_false nofun ?_
        rintro ⟨within, hcs, hw, -⟩
        obtain ⟨d, within, rfl, hd, -⟩ := List.map_eq_cons_iff.1 hw
        obtain ⟨rfl, -⟩ := List.cons.inj hcs
        exact hc hd

/-! ### The whole phrase -/

theorem startsAt_oneOf {spellings : List (List Char)} {ps : Phrase} {before cs : List Char} :
    startsAt (.oneOf spellings :: ps) before.getLast? cs ↔ ∃ w ∈ spellings, ∃ first rest,
      cs = first ++ rest ∧ first.map fold = w ∧ startsAt ps (before ++ first).getLast? rest := by
  rw [startsAt, List.any_eq_true]
  refine exists_congr fun w => and_congr_right fun _ => ?_
  constructor
  · intro h
    split at h
    · rename_i left rest hskip
      obtain ⟨first, hcs, hw, rfl⟩ := skip_eq_some_iff.1 hskip
      exact ⟨first, rest, hcs, hw, h⟩
    · contradiction
  · rintro ⟨first, rest, hcs, hw, h⟩
    rw [skip_eq_some_iff.2 ⟨first, hcs, hw, rfl⟩]
    exact h

theorem startsAt_iff {ps : Phrase} (h : ∀ p ∈ ps, p.isPlain) {before cs : List Char} :
    startsAt ps before.getLast? cs ↔ ∃ within after, cs = within ++ after ∧
      ∃ word ∈ words ps, Spelt word before within after := by
  -- What a piece passes over joins `before`, where the next piece looks for an edge.
  induction ps generalizing before cs with
  | nil => simp [startsAt, words, Spelt]
  | cons p ps ih =>
    obtain ⟨hp, hps⟩ := List.forall_mem_cons.1 h
    cases p with
    | edge =>
      rw [startsAt, Bool.and_eq_true, ih hps]
      constructor
      · rintro ⟨hedge, within, after, rfl, word, hword, hspelt⟩
        exact ⟨within, after, rfl, .edge :: word, List.mem_map_of_mem hword, hedge, hspelt⟩
      · rintro ⟨within, after, rfl, word, hword, hspelt⟩
        obtain ⟨rest, hrest, rfl⟩ := List.mem_map.1 hword
        exact ⟨hspelt.1, within, after, rfl, rest, hrest, hspelt.2⟩
    | oneOf spellings =>
      have hplain : ∀ w ∈ spellings, w.all Text.isPlain := List.all_eq_true.1 hp
      rw [startsAt_oneOf]
      constructor
      · rintro ⟨w, hw, first, rest, rfl, hfirst, hrest⟩
        obtain ⟨within, after, rfl, word, hword, hspelt⟩ := (ih hps).1 hrest
        refine ⟨first ++ within, after, (List.append_assoc ..).symm, w.map .letter ++ word,
          List.mem_flatMap.2 ⟨w, hw, List.mem_map_of_mem hword⟩, ?_⟩
        exact (spelt_append _ _).2
          ⟨first, within, rfl, (spelt_letters (hplain w hw)).2 hfirst, hspelt⟩
      · rintro ⟨within, after, rfl, word, hword, hspelt⟩
        obtain ⟨w, hw, hrest⟩ := List.mem_flatMap.1 hword
        obtain ⟨later, hlater, rfl⟩ := List.mem_map.1 hrest
        obtain ⟨first, second, rfl, hfirst, hsecond⟩ := (spelt_append _ _).1 hspelt
        refine ⟨w, hw, first, second ++ after, List.append_assoc ..,
          (spelt_letters (hplain w hw)).1 hfirst, (ih hps).2 ?_⟩
        exact ⟨second, after, rfl, later, hlater, hsecond⟩

theorem occursAfter_iff {ps : Phrase} {before cs : List Char} :
    occursAfter ps before.getLast? cs ↔
      ∃ passed rest, cs = passed ++ rest ∧ startsAt ps (before ++ passed).getLast? rest := by
  induction cs generalizing before with
  | nil => simp [occursAfter]
  | cons c cs ih =>
    have hlast : some c = (before ++ [c]).getLast? := List.getLast?_concat.symm
    rw [occursAfter, Bool.or_eq_true, hlast, ih]
    constructor
    · rintro (hhere | ⟨passed, rest, rfl, hlater⟩)
      · exact ⟨[], c :: cs, rfl, by simpa using hhere⟩
      · exact ⟨c :: passed, rest, rfl, by simpa using hlater⟩
    · rintro ⟨_ | ⟨d, passed⟩, rest, hcs, h⟩
      · obtain rfl : c :: cs = rest := hcs
        exact .inl (by simpa using h)
      · obtain ⟨rfl, rfl⟩ := List.cons.inj hcs
        exact .inr ⟨passed, rest, rfl, by simpa using h⟩

theorem occursIn_iff {ps : Phrase} (h : ∀ p ∈ ps, p.isPlain) {s : String} :
    occursIn ps s ↔ ∃ word ∈ words ps, SpeltIn word s := by
  have hstart : occursIn ps s = occursAfter ps ([] : List Char).getLast? s.toList := rfl
  rw [hstart, occursAfter_iff]
  constructor
  · rintro ⟨before, rest, hs, hstarts⟩
    obtain ⟨within, after, rfl, word, hword, hspelt⟩ := (startsAt_iff h).1 hstarts
    exact ⟨word, hword, before, within, after, by rw [hs, List.append_assoc], hspelt⟩
  · rintro ⟨word, hword, before, within, after, hs, hspelt⟩
    refine ⟨before, within ++ after, by rw [hs, List.append_assoc], (startsAt_iff h).2 ?_⟩
    exact ⟨within, after, rfl, word, hword, hspelt⟩

/-! ### The case of ASCII letters -/

theorem skip_toLower (w : List Char) (left : Option Char) (cs : List Char) :
    skip w (left.map Char.toLower) (cs.map Char.toLower) =
      (skip w left cs).map (Prod.map (Option.map Char.toLower) (List.map Char.toLower)) := by
  induction w generalizing left cs with
  | nil => rfl
  | cons k w ih =>
    cases cs with
    | nil => rfl
    | cons c cs =>
      rw [List.map_cons, skip, skip, fold_toLower]
      split_ifs
      · exact ih (some c) cs
      · rfl

theorem isEdge_toLower (left right : Option Char) :
    Word.isEdge (left.map Char.toLower) (right.map Char.toLower) = Word.isEdge left right := by
  simp only [Word.isEdge, Option.any_map, isWordChar_toLower]

theorem startsAt_toLower (ps : Phrase) (left : Option Char) (cs : List Char) :
    startsAt ps (left.map Char.toLower) (cs.map Char.toLower) = startsAt ps left cs := by
  induction ps generalizing left cs with
  | nil => rfl
  | cons p ps ih =>
    cases p with
    | edge => rw [startsAt, startsAt, List.head?_map, isEdge_toLower, ih]
    | oneOf spellings =>
      rw [startsAt, startsAt]
      congr 1
      funext w
      rw [skip_toLower]
      cases skip w left cs with
      | none => rfl
      | some r => exact ih r.1 r.2

theorem occursAfter_toLower (ps : Phrase) (left : Option Char) (cs : List Char) :
    occursAfter ps (left.map Char.toLower) (cs.map Char.toLower) = occursAfter ps left cs := by
  induction cs generalizing left with
  | nil => exact startsAt_toLower ps left []
  | cons c cs ih =>
    have hhere := startsAt_toLower ps left (c :: cs)
    have hlater := ih (some c)
    rw [List.map_cons] at hhere ⊢
    rw [occursAfter, occursAfter, hhere]
    exact congrArg _ hlater

theorem occursIn_congr (ps : Phrase) {s t : String} (h : sameIgnoringAsciiCase s t) :
    occursIn ps s = occursIn ps t := by
  have hlower : s.toList.map Char.toLower = t.toList.map Char.toLower := eq_of_beq h
  calc occursIn ps s = occursAfter ps none (s.toList.map Char.toLower) :=
        (occursAfter_toLower ps none _).symm
    _ = occursAfter ps none (t.toList.map Char.toLower) := by rw [hlower]
    _ = occursIn ps t := occursAfter_toLower ps none _

end Phrase

end CodeHealth.Text
