import CodeHealth.Proofs.Number.Finite
import CodeHealth.Json.Tree
import Mathlib

/-! Numbers in a text are finite. A numeral is either a whole number of 64 bits, a finite binary
number, or nothing at all; so every number of a tree that has been read from a text is finite, at
any depth. -/

namespace CodeHealth.Json

open Number

namespace Token

/-- If the token is a number, it is a finite one. -/
def Finite : Token → Prop
  | .number (some x) => x.Finite
  | _ => True

theorem finite_numeral {negative : Bool} {cs rest : List Char} {tok : Token}
    (h : numeral negative cs = some (tok, rest)) : tok.Finite := by
  simp only [numeral, Option.bind_eq_bind, Option.bind_eq_some_iff, Option.some.injEq,
    Prod.mk.injEq] at h
  obtain ⟨⟨whole, r⟩, -, ⟨fraction, r'⟩, -, ⟨exponent, r''⟩, -, rfl, -⟩ := h
  cases hvalue : Numeral.value ⟨negative, digitsOf whole, fraction, exponent⟩ with
  | none => trivial
  | some x => exact finite_value hvalue

theorem finite_quoted {cs rest : List Char} {tok : Token} (h : quoted cs = some (tok, rest)) :
    tok.Finite := by
  obtain ⟨p, -, hp⟩ := Option.map_eq_some_iff.1 h
  cases hp
  trivial

theorem finite_first {cs rest : List Char} {tok : Token} (h : first cs = some (tok, rest)) :
    tok.Finite := by
  unfold first at h
  split at h
  case h_8 => exact finite_quoted h
  case h_9 => exact finite_numeral h
  case h_13 => exact finite_numeral h
  all_goals
    cases h
    try trivial

theorem finite_scan {n : ℕ} {cs : List Char} {toks : List Token} (h : scan n cs = some toks) :
    ∀ tok ∈ toks, tok.Finite := by
  fun_induction scan n cs generalizing toks with
  | case1 =>
    cases h
    simp
  | case2 => contradiction
  | case3 cs n _ ih =>
    simp only [Option.bind_eq_bind, Option.bind_eq_some_iff, Option.map_eq_some_iff] at h
    obtain ⟨⟨tok, r⟩, hfirst, toks, hscan, rfl⟩ := h
    intro t ht
    rcases List.mem_cons.1 ht with rfl | ht
    · exact finite_first hfirst
    · exact ih r hscan t ht

end Token

namespace Tree

mutual
/-- All numbers of the tree are finite. -/
def Finite : Tree → Prop
  | number (some x) => x.Finite
  | list xs => FiniteItems xs
  | record ms => FiniteMembers ms
  | _ => True
def FiniteItems : List Tree → Prop
  | [] => True
  | t :: ts => t.Finite ∧ FiniteItems ts
def FiniteMembers : List (Option String × Tree) → Prop
  | [] => True
  | (_, t) :: ms => t.Finite ∧ FiniteMembers ms
end

theorem finiteItems_iff (ts : List Tree) : FiniteItems ts ↔ ∀ t ∈ ts, t.Finite := by
  induction ts with
  | nil => simp [FiniteItems]
  | cons t ts ih => simp [FiniteItems, ih]

theorem finiteMembers_iff (ms : List (Option String × Tree)) :
    FiniteMembers ms ↔ ∀ m ∈ ms, m.2.Finite := by
  induction ms with
  | nil => simp [FiniteMembers]
  | cons m ms ih => simp [FiniteMembers, ih]

namespace Frame

def Finite : Frame → Prop
  | .list done => ∀ t ∈ done, t.Finite
  | .record done => ∀ m ∈ done, m.2.Finite
  | .member _ => True

end Frame

namespace Expect

def Finite : Expect → Prop
  | .rest complete => complete.Finite
  | _ => True

end Expect

/-- What has been read so far has finite numbers only. -/
structure FiniteSoFar (p : Progress) : Prop where
  frames : ∀ f ∈ p.1, f.Finite
  expect : p.2.Finite

theorem FiniteSoFar.of_cons {f : Frame} {frames : List Frame} {e : Expect}
    (h : FiniteSoFar (f :: frames, e)) : f.Finite ∧ ∀ g ∈ frames, g.Finite :=
  List.forall_mem_cons.1 h.frames

theorem finite_start {frames : List Frame} {tok : Token} {p : Progress}
    (hframes : ∀ f ∈ frames, f.Finite) (htok : tok.Finite) (h : start frames tok = some p) :
    FiniteSoFar p := by
  unfold start at h
  split at h <;> cases h
  · exact ⟨hframes, trivial⟩
  · exact ⟨hframes, trivial⟩
  · rename_i x
    cases x with
    | none => exact ⟨hframes, trivial⟩
    | some x => exact ⟨hframes, htok⟩
  · exact ⟨hframes, trivial⟩
  · exact ⟨List.forall_mem_cons.2 ⟨by simp [Frame.Finite], hframes⟩, trivial⟩
  · exact ⟨List.forall_mem_cons.2 ⟨by simp [Frame.Finite], hframes⟩, trivial⟩

/-- One more token with a finite number, and what has been read is still finite. -/
theorem finite_step {p p' : Progress} {tok : Token} (hp : FiniteSoFar p) (htok : tok.Finite)
    (h : step p tok = some p') : FiniteSoFar p' := by
  unfold step at h
  split at h
  · exact finite_start hp.frames htok h
  · cases h
    exact ⟨hp.of_cons.2, trivial⟩
  · exact finite_start hp.frames htok h
  · cases h
    exact ⟨hp.of_cons.2, trivial⟩
  · cases h
    exact ⟨List.forall_mem_cons.2 ⟨trivial, hp.frames⟩, trivial⟩
  · cases h
    exact ⟨List.forall_mem_cons.2 ⟨trivial, hp.frames⟩, trivial⟩
  · cases h
    exact ⟨hp.frames, trivial⟩
  -- an item is complete: it goes to the list, which may be complete as well
  · rename_i done frames t
    cases h
    obtain ⟨hdone, hframes⟩ := hp.of_cons
    have hitems : ∀ u ∈ t :: done, u.Finite := List.forall_mem_cons.2 ⟨hp.expect, hdone⟩
    exact ⟨List.forall_mem_cons.2 ⟨hitems, hframes⟩, trivial⟩
  · rename_i done frames t
    cases h
    obtain ⟨hdone, hframes⟩ := hp.of_cons
    have hitems : ∀ u ∈ t :: done, u.Finite := List.forall_mem_cons.2 ⟨hp.expect, hdone⟩
    exact ⟨hframes, (finiteItems_iff _).2 fun u hu => hitems u (List.mem_reverse.1 hu)⟩
  -- the same for a member and its record
  · rename_i name done frames t
    cases h
    obtain ⟨hdone, hframes⟩ := List.forall_mem_cons.1 hp.of_cons.2
    have hmembers : ∀ m ∈ (name, t) :: done, m.2.Finite :=
      List.forall_mem_cons.2 ⟨hp.expect, hdone⟩
    exact ⟨List.forall_mem_cons.2 ⟨hmembers, hframes⟩, trivial⟩
  · rename_i name done frames t
    cases h
    obtain ⟨hdone, hframes⟩ := List.forall_mem_cons.1 hp.of_cons.2
    have hmembers : ∀ m ∈ (name, t) :: done, m.2.Finite :=
      List.forall_mem_cons.2 ⟨hp.expect, hdone⟩
    exact ⟨hframes, (finiteMembers_iff _).2 fun m hm => hmembers m (List.mem_reverse.1 hm)⟩
  · contradiction

theorem finite_ofTokens {toks : List Token} {t : Tree} (htoks : ∀ tok ∈ toks, tok.Finite)
    (h : ofTokens toks = some t) : t.Finite := by
  have hrun : ∀ (toks : List Token) (p p' : Progress), (∀ tok ∈ toks, tok.Finite) →
      FiniteSoFar p → toks.foldlM step p = some p' → FiniteSoFar p' := by
    intro toks
    induction toks with
    | nil =>
      rintro p p' - hp ⟨⟩
      exact hp
    | cons tok toks ih =>
      intro p p' htoks hp hfold
      rw [List.foldlM_cons] at hfold
      obtain ⟨q, hq, hrest⟩ := Option.bind_eq_some_iff.1 hfold
      obtain ⟨htok, htoks⟩ := List.forall_mem_cons.1 htoks
      exact ih q p' htoks (finite_step hp htok hq) hrest
  unfold ofTokens at h
  obtain ⟨p, hp, hrest⟩ := Option.bind_eq_some_iff.1 h
  have hstart : FiniteSoFar ([], .value) := ⟨by simp, trivial⟩
  have hfinite := hrun toks _ p htoks hstart hp
  split at hrest <;> cases hrest
  exact hfinite.expect

/-- Every number of a text that is read as a tree is finite. -/
theorem finite_read {s : String} {t : Tree} (h : Tree.read s = some t) : t.Finite := by
  obtain ⟨toks, htoks, hrest⟩ := Option.bind_eq_some_iff.1 h
  exact finite_ofTokens (Token.finite_scan htoks) hrest

end Tree

end CodeHealth.Json
