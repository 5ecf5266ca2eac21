import CodeHealth.Proofs.Toml.Text
import CodeHealth.Proofs.Toml.Whole
import Mathlib

/-! Lines of a TOML file: the header of a section, a name with its value, and nothing. Each is read
as its statement, and the rest of the file is read behind it. -/

namespace CodeHealth.Toml

/-! ### Names -/

/-- A name that needs no quotes. -/
def Bare (s : String) : Prop := s.toList ≠ [] ∧ ∀ c ∈ s.toList, isBare c

instance (s : String) : Decidable (Bare s) :=
  inferInstanceAs (Decidable (s.toList ≠ [] ∧ ∀ c ∈ s.toList, isBare c))

variable {s : String} {c : Char} {r : List Char}

theorem Bare.exists_cons (hs : Bare s) : ∃ d ds, s.toList = d :: ds ∧ isBare d := by
  obtain ⟨d, ds, hds⟩ := List.exists_cons_of_ne_nil hs.1
  exact ⟨d, ds, hds, hs.2 d (hds ▸ List.mem_cons_self)⟩

theorem simpleName_bare (hs : Bare s) (hc : isBare c = false) :
    simpleName (s.toList ++ c :: r) = some (s, c :: r) := by
  have htake : (s.toList ++ c :: r).takeWhile isBare = s.toList := by
    rw [List.takeWhile_append_of_pos hs.2, List.takeWhile_cons_of_neg (by simp [hc]),
      List.append_nil]
  have hdrop : (s.toList ++ c :: r).dropWhile isBare = c :: r := by
    rw [List.dropWhile_append_of_pos hs.2, List.dropWhile_cons_of_neg (by simp [hc])]
  obtain ⟨d, ds, hds, hd⟩ := hs.exists_cons
  have hself : String.ofList (d :: ds) = s := by rw [← hds, String.ofList_toList]
  unfold simpleName
  split
  · simp_all [isBare]
  · simp_all [isBare]
  · simp only [htake, hdrop]
    simp only [hds, hself]

theorem name_bare (hs : Bare s) (hc : isBare c = false)
    (hdot : ∀ r', skipSpace (c :: r) ≠ '.' :: r') :
    name (s.toList ++ c :: r) = some (⟨[], s⟩, c :: r) := by
  have hmore : moreNames ((c :: r).length + 1) (c :: r) = some ([], c :: r) := by
    unfold moreNames
    split
    · exact absurd ‹_› (hdot _)
    · rfl
  simp only [name, simpleName_bare hs hc, hmore, Option.bind_eq_bind, Option.bind_some]
  rfl

/-! ### Statements -/

/-- The text of a value on the rest of a line. -/
structure Written (v : List Char) (x : Toml) : Prop where
  head : ∃ d ∈ v.head?, isSpace d = false ∧ d ≠ '[' ∧ d ≠ '\x7b'
  read : ∀ r, leaf (v ++ '\n' :: r) = some (x, '\n' :: r)

theorem Written.head_append {v : List Char} {x : Toml} (h : Written v x) (r : List Char) :
    ∃ d ∈ (v ++ r).head?, isSpace d = false ∧ d ≠ '[' ∧ d ≠ '\x7b' := by
  obtain ⟨d, hd, hne⟩ := h.head
  obtain ⟨ds, rfl⟩ := List.head?_eq_some_iff.1 hd
  exact ⟨d, rfl, hne⟩

theorem written_text (s : String) : Written (writeText s) (.text s) where
  head := by
    rcases head?_writeText s with h | h
    · exact ⟨'"', h, by decide⟩
    · exact ⟨'\'', h, by decide⟩
  read r := by
    have hread := anyText_writeText s r
    have hleaf : leaf (writeText s ++ '\n' :: r) =
        (anyText (writeText s ++ '\n' :: r)).map fun p => (.text p.1, p.2) := by
      rcases head?_writeText s with h | h
      · obtain ⟨cs, hcs⟩ := List.head?_eq_some_iff.1 h
        rw [hcs]
        rfl
      · obtain ⟨cs, hcs⟩ := List.head?_eq_some_iff.1 h
        rw [hcs]
        rfl
    rw [hleaf, hread]
    rfl

theorem written_whole {n : ℕ} (h : n < 2 ^ 63) :
    Written (Nat.toDigits 10 n) (.whole n) where
  head := by
    obtain ⟨c, cs, hdigits, hc⟩ := exists_toDigits_cons n
    refine ⟨c, by simp [hdigits], ?_, ?_, ?_⟩
    · by_contra hspace
      simp only [isSpace, Bool.not_eq_false, Bool.or_eq_true, beq_iff_eq] at hspace
      rcases hspace with rfl | rfl <;> contradiction
    · rintro rfl
      contradiction
    · rintro rfl
      contradiction
  read r := leaf_toDigits r h

theorem value_of_head {cs : List Char} (h : ∃ d ∈ cs.head?, d ≠ '[' ∧ d ≠ '\x7b') (n depth : ℕ) :
    value (n + 1) depth cs = leaf cs := by
  obtain ⟨d, hd, hlist, htable⟩ := h
  unfold value
  split
  · exact absurd (Option.some.inj hd) hlist.symm
  · exact absurd (Option.some.inj hd) htable.symm
  · exact absurd (Option.some.inj hd) hlist.symm
  · exact absurd (Option.some.inj hd) htable.symm
  · rfl

theorem skipSpace_of_head {cs : List Char} (h : ∃ d ∈ cs.head?, isSpace d = false) :
    skipSpace cs = cs := by
  obtain ⟨d, hd, hspace⟩ := h
  obtain ⟨ds, rfl⟩ := List.head?_eq_some_iff.1 hd
  exact List.dropWhile_cons_of_neg (by simp [hspace])

theorem isSpace_of_isBare (h : isBare c) : isSpace c = false := by
  by_contra hspace
  simp only [isSpace, Bool.not_eq_false, Bool.or_eq_true, beq_iff_eq] at hspace
  rcases hspace with rfl | rfl <;> contradiction

theorem statement_header (hs : Bare s) :
    statement ('[' :: (s.toList ++ ']' :: r)) = some (.header ⟨[], s⟩, r) := by
  have hname : name (s.toList ++ ']' :: r) = some (⟨[], s⟩, ']' :: r) :=
    name_bare hs (by decide) (by simp [skipSpace, isSpace])
  obtain ⟨d, ds, hds, hd⟩ := hs.exists_cons
  have hspace : skipSpace (s.toList ++ ']' :: r) = s.toList ++ ']' :: r :=
    skipSpace_of_head ⟨d, by simp [hds], isSpace_of_isBare hd⟩
  have hmark : mark ']' (skipSpace (']' :: r)) = some r := rfl
  unfold statement
  split
  · simp_all [isBare]
  · rename_i heq
    obtain rfl := (List.cons.inj heq).2
    simp only [hspace, hname, hmark, Option.bind_eq_bind, Option.bind_some]
  · simp_all

theorem statement_pair (hs : Bare s) {v : List Char} {x : Toml} (hv : Written v x) :
    statement (s.toList ++ ' ' :: '=' :: ' ' :: (v ++ '\n' :: r)) =
      some (.pair ⟨[], s⟩ x, '\n' :: r) := by
  have hname : name (s.toList ++ ' ' :: '=' :: ' ' :: (v ++ '\n' :: r)) =
      some (⟨[], s⟩, ' ' :: '=' :: ' ' :: (v ++ '\n' :: r)) :=
    name_bare hs (by decide) (by simp [skipSpace, isSpace])
  have hmark : mark '=' (skipSpace (' ' :: '=' :: ' ' :: (v ++ '\n' :: r))) =
      some (' ' :: (v ++ '\n' :: r)) := rfl
  obtain ⟨e, he, hspace, hvalue⟩ := hv.head_append ('\n' :: r)
  have hskip : skipSpace (' ' :: (v ++ '\n' :: r)) = v ++ '\n' :: r :=
    skipSpace_of_head ⟨e, he, hspace⟩
  have hread : value (2 * (' ' :: (v ++ '\n' :: r)).length + 2) nestingLimit (v ++ '\n' :: r) =
      some (x, '\n' :: r) := by
    rw [value_of_head ⟨e, he, hvalue⟩, hv.read]
  obtain ⟨d, ds, hds, hd⟩ := hs.exists_cons
  have hbracket : d ≠ '[' := by
    rintro rfl
    contradiction
  unfold statement
  split
  · simp_all
  · simp_all
  · simp only [hname, hmark, hskip, hread, Option.bind_eq_bind, Option.bind_some]

/-! ### Files -/

/-- The text spells these statements, however many lines may be read. -/
def Spells (cs : List Char) (ss : List Statement) : Prop :=
  ∀ n, cs.length < n → statements n cs = some ss

theorem Spells.nil : Spells [] [] := by
  intro n hn
  obtain ⟨n, rfl⟩ := Nat.exists_eq_add_one_of_ne_zero (Nat.ne_of_gt hn)
  rfl

theorem Spells.blank {ss : List Statement} (h : Spells r ss) : Spells ('\n' :: r) ss := by
  intro n hn
  obtain ⟨n, rfl⟩ := Nat.exists_eq_add_one_of_ne_zero (Nat.ne_zero_of_lt hn)
  exact h n (Nat.lt_of_succ_lt_succ hn)

theorem Spells.cons {cs : List Char} {x : Statement} {ss : List Statement}
    (hhead : ∃ d ∈ cs.head?, isSpace d = false ∧ d ≠ '#' ∧ d ≠ '\n' ∧ d ≠ '\r')
    (hx : statement cs = some (x, '\n' :: r)) (hlength : r.length < cs.length) (h : Spells r ss) :
    Spells cs (x :: ss) := by
  intro n hn
  obtain ⟨n, rfl⟩ := Nat.exists_eq_add_one_of_ne_zero (Nat.ne_zero_of_lt hn)
  obtain ⟨d, hd, hspace, hcomment, hfeed, hreturn⟩ := hhead
  obtain ⟨ds, rfl⟩ := List.head?_eq_some_iff.1 hd
  have hrest := h n (by omega)
  have hend : endLine ('\n' :: r) = some r := rfl
  unfold statements
  rw [skipSpace_of_head ⟨d, hd, hspace⟩]
  split
  · contradiction
  · simp_all
  · rename_i c cs _ heq
    obtain ⟨rfl, rfl⟩ := List.cons.inj heq
    rw [afterLineEnd_cons hfeed hreturn]
    simp only [hx, hend, hrest, Option.bind_eq_bind, Option.bind_some, Option.map_some]

theorem Bare.head_append (hs : Bare s) (r : List Char) : ∃ d ∈ (s.toList ++ r).head?,
    isSpace d = false ∧ d ≠ '#' ∧ d ≠ '\n' ∧ d ≠ '\r' := by
  obtain ⟨d, ds, hds, hd⟩ := hs.exists_cons
  refine ⟨d, by simp [hds], isSpace_of_isBare hd, ?_, ?_, ?_⟩ <;>
  · rintro rfl
    contradiction

theorem Spells.header {ss : List Statement} (hs : Bare s) (h : Spells r ss) :
    Spells ('[' :: (s.toList ++ ']' :: '\n' :: r)) (.header ⟨[], s⟩ :: ss) :=
  h.cons ⟨'[', rfl, by decide⟩ (statement_header hs) (by simp; omega)

theorem Spells.pair {ss : List Statement} (hs : Bare s) {v : List Char} {x : Toml}
    (hv : Written v x) (h : Spells r ss) :
    Spells (s.toList ++ ' ' :: '=' :: ' ' :: (v ++ '\n' :: r)) (.pair ⟨[], s⟩ x :: ss) :=
  h.cons (hs.head_append _) (statement_pair hs hv) (by simp; omega)

theorem statements_of_spells {cs : List Char} {ss : List Statement} (h : Spells cs ss) :
    statements (cs.length + 1) cs = some ss := h _ (Nat.lt_succ_self _)

end CodeHealth.Toml
