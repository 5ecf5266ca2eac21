import CodeHealth.Json.Tree
import CodeHealth.Text.Blank
import Mathlib

/-! How the text of a record begins. The first token decides what the whole text spells: once a list
is open, nothing but that list can come of it; and a scalar is over at once. So a text that spells a
record begins with the brace that opens it, up to spaces. -/

namespace CodeHealth.Json

namespace Token

theorem isBlank_of_isSpace {c : Char} (h : isSpace c) : Text.isBlank c := by
  simp only [isSpace, Bool.or_eq_true, beq_iff_eq] at h
  obtain ((rfl | rfl) | rfl) | rfl := h <;> rfl

theorem text_of_quoted {cs rest : List Char} {tok : Token} (h : quoted cs = some (tok, rest)) :
    ∃ s, tok = .text s := by
  obtain ⟨p, -, hp⟩ := Option.map_eq_some_iff.1 h
  cases hp
  exact ⟨_, rfl⟩

theorem number_of_numeral {negative : Bool} {cs rest : List Char} {tok : Token}
    (h : numeral negative cs = some (tok, rest)) : ∃ x, tok = .number x := by
  simp only [numeral, Option.bind_eq_bind, Option.bind_eq_some_iff, Option.some.injEq,
    Prod.mk.injEq] at h
  obtain ⟨⟨whole, r⟩, -, ⟨fraction, r'⟩, -, ⟨exponent, r''⟩, -, rfl, -⟩ := h
  exact ⟨_, rfl⟩

/-- Only a brace opens a record. -/
theorem brace_of_first {cs rest : List Char} (h : first cs = some (.recordOpen, rest)) :
    cs = '\x7b' :: rest := by
  unfold first at h
  split at h
  case h_4 =>
    cases h
    rfl
  case h_8 =>
    obtain ⟨s, hs⟩ := text_of_quoted h
    contradiction
  case h_9 =>
    obtain ⟨x, hx⟩ := number_of_numeral h
    contradiction
  case h_13 =>
    obtain ⟨x, hx⟩ := number_of_numeral h
    contradiction
  all_goals cases h

theorem first_of_scan {n : ℕ} {cs : List Char} {tok : Token} {toks : List Token}
    (h : scan n cs = some (tok :: toks)) :
    ∃ rest, first (cs.dropWhile isSpace) = some (tok, rest) := by
  unfold scan at h
  split at h
  · cases h
  · cases h
  · simp only [Option.bind_eq_bind, Option.bind_eq_some_iff, Option.map_eq_some_iff] at h
    obtain ⟨⟨t, rest⟩, hfirst, ts, -, heq⟩ := h
    cases heq
    exact ⟨rest, hfirst⟩

end Token

namespace Tree

/-- The outermost frame is a list; or no frame is left, and a list is what has been read. -/
def InList : Progress → Prop
  | ([], e) => ∃ xs, e = .rest (.list xs)
  | (f :: frames, _) => ∃ done, frames.getLast?.getD f = .list done

section

variable {f g : Frame} {frames : List Frame} {e e' : Expect}

/-- While something is still expected, a frame is open, and it is no matter what comes on top. -/
theorem InList.push (he : ∀ t, e ≠ .rest t) (h : InList (frames, e)) : InList (g :: frames, e') := by
  cases frames with
  | nil =>
    obtain ⟨xs, hxs⟩ := h
    exact absurd hxs (he _)
  | cons f frames => simpa [InList, List.getLast?_cons] using h

theorem InList.expect (he : ∀ t, e ≠ .rest t) (h : InList (frames, e)) : InList (frames, e') := by
  cases frames with
  | nil =>
    obtain ⟨xs, hxs⟩ := h
    exact absurd hxs (he _)
  | cons f frames => exact h

theorem InList.replace (hfg : ∀ done, f = .list done → ∃ done', g = .list done')
    (h : InList (f :: frames, e)) : InList (g :: frames, e') := by
  obtain ⟨done, hdone⟩ := h
  cases hlast : frames.getLast? with
  | none =>
    rw [hlast] at hdone
    simpa [InList, hlast] using hfg done hdone
  | some k =>
    rw [hlast] at hdone
    exact ⟨done, by rwa [hlast]⟩

/-- A frame that is not a list is not the outermost one. -/
theorem InList.pop (e' : Expect) (hf : ∀ done, f ≠ .list done) (h : InList (f :: frames, e)) :
    InList (frames, e') := by
  obtain ⟨done, hdone⟩ := h
  cases frames with
  | nil => exact absurd hdone (hf done)
  | cons k frames => exact ⟨done, by simpa [List.getLast?_cons] using hdone⟩

theorem InList.popList {xs : List Tree} (h : InList (f :: frames, e)) :
    InList (frames, .rest (.list xs)) := by
  obtain ⟨done, hdone⟩ := h
  cases frames with
  | nil => exact ⟨xs, rfl⟩
  | cons k frames => exact ⟨done, by simpa [List.getLast?_cons] using hdone⟩

theorem InList.start {tok : Token} {q : Progress} (he : ∀ t, e ≠ .rest t)
    (hp : InList (frames, e)) (h : start frames tok = some q) : InList q := by
  unfold Tree.start at h
  split at h <;> cases h
  · exact hp.expect he
  · exact hp.expect he
  · exact hp.expect he
  · exact hp.expect he
  · exact hp.push he
  · exact hp.push he

end

/-- Nothing leads out of a list that is open at the outside but its own end. -/
theorem InList.step {p q : Progress} {tok : Token} (hp : InList p) (h : step p tok = some q) :
    InList q := by
  unfold Tree.step at h
  split at h
  · exact hp.start (by simp) h
  · cases h
    exact hp.popList
  · exact hp.start (by simp) h
  · cases h
    exact hp.pop _ (by simp)
  · cases h
    exact hp.push (by simp)
  · cases h
    exact hp.push (by simp)
  · cases h
    exact hp.expect (by simp)
  · cases h
    exact hp.replace fun done _ => ⟨_, rfl⟩
  · cases h
    exact hp.popList
  · cases h
    exact (hp.pop .name (by simp)).replace (by simp)
  · cases h
    exact (hp.pop .name (by simp)).pop _ (by simp)
  · cases h

theorem InList.run {p q : Progress} {toks : List Token} (hp : InList p)
    (h : toks.foldlM Tree.step p = some q) : InList q := by
  induction toks generalizing p with
  | nil =>
    cases h
    exact hp
  | cons tok toks ih =>
    rw [List.foldlM_cons] at h
    obtain ⟨p', hp', hrest⟩ := Option.bind_eq_some_iff.1 h
    exact ih (hp.step hp') hrest

/-- After a complete value nothing may follow. -/
theorem nil_of_run {t : Tree} {q : Progress} {toks : List Token}
    (h : toks.foldlM step ([], .rest t) = some q) : toks = [] ∧ q = ([], .rest t) := by
  cases toks with
  | nil =>
    cases h
    exact ⟨rfl, rfl⟩
  | cons tok toks =>
    rw [List.foldlM_cons] at h
    obtain ⟨p', hp', -⟩ := Option.bind_eq_some_iff.1 h
    cases tok <;> cases hp'

theorem recordOpen_of_ofTokens {toks : List Token} {ms : List (Option String × Tree)}
    (h : ofTokens toks = some (.record ms)) : ∃ rest, toks = .recordOpen :: rest := by
  obtain ⟨q, hq, hrest⟩ := Option.bind_eq_some_iff.1 h
  have hq' : q = ([], .rest (.record ms)) := by
    split at hrest <;> cases hrest
    rfl
  subst hq'
  cases toks with
  | nil => cases hq
  | cons tok toks =>
    rw [List.foldlM_cons] at hq
    obtain ⟨p, hp, hrun⟩ := Option.bind_eq_some_iff.1 hq
    cases tok with
    | recordOpen => exact ⟨toks, rfl⟩
    | listOpen =>
      cases hp
      have hstart : InList ([.list []], .itemOrClose) := ⟨[], rfl⟩
      obtain ⟨xs, hxs⟩ := hstart.run hrun
      cases hxs
    | listClose => cases hp
    | recordClose => cases hp
    | colon => cases hp
    | comma => cases hp
    | _ =>
      cases hp
      obtain ⟨-, hover⟩ := nil_of_run hrun
      cases hover

end Tree

/-- A text that spells a record begins with a brace. -/
theorem brace_of_read {s : String} {ms : List (Option String × Tree)}
    (h : Tree.read s = some (.record ms)) :
    ∃ spaces rest, s.toList = spaces ++ '\x7b' :: rest ∧ ∀ c ∈ spaces, Token.isSpace c := by
  obtain ⟨toks, htoks, hrecord⟩ := Option.bind_eq_some_iff.1 h
  obtain ⟨rest, rfl⟩ := Tree.recordOpen_of_ofTokens hrecord
  obtain ⟨after, hfirst⟩ := Token.first_of_scan htoks
  refine ⟨s.toList.takeWhile Token.isSpace, after, ?_, fun c => List.mem_takeWhile_imp⟩
  rw [← Token.brace_of_first hfirst, List.takeWhile_append_dropWhile]

end CodeHealth.Json
