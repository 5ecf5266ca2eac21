import CodeHealth.Toml.Reader
import Mathlib

/-! Whole numbers that are read from a TOML file fit 64 bits with a sign, wherever they stand in it.
What is read value by value is so by the range check of the reader, and no way of adding to a table
changes a number. -/

namespace CodeHealth.Toml

mutual
/-- All whole numbers in the value are below 2^63. -/
def Fits : Toml → Prop
  | .whole i => i < 2 ^ 63
  | .list xs => FitItems xs
  | .table _ ms => FitMembers ms
  | .tables ts => FitTables ts
  | _ => True
def FitItems : List Toml → Prop
  | [] => True
  | x :: xs => x.Fits ∧ FitItems xs
def FitMembers : List (String × Toml) → Prop
  | [] => True
  | (_, v) :: ms => v.Fits ∧ FitMembers ms
def FitTables : List (List (String × Toml)) → Prop
  | [] => True
  | t :: ts => FitMembers t ∧ FitTables ts
end

theorem fitMembers_nil : FitMembers [] := trivial

theorem fitItems_iff (xs : List Toml) : FitItems xs ↔ ∀ x ∈ xs, x.Fits := by
  induction xs with
  | nil => simp [FitItems]
  | cons x xs ih => simp [FitItems, ih]

theorem fitTables_iff (ts : List Members) : FitTables ts ↔ ∀ t ∈ ts, FitMembers t := by
  induction ts with
  | nil => simp [FitTables]
  | cons t ts ih => simp [FitTables, ih]

/-! ### Tables -/

/-- A change that gives only fitting values, if the old one fits. -/
def Keeps {α β : Type} (P : α → Prop) (Q : β → Prop) (f : α → Option β) : Prop :=
  ∀ a, P a → ∀ b ∈ f a, Q b

theorem keeps_foldlM {α β : Type} {P : α → Prop} {f : α → β → Option α} {bs : List β}
    (h : ∀ b ∈ bs, Keeps P P (f · b)) : Keeps P P (bs.foldlM f ·) := by
  induction bs with
  | nil =>
    intro a ha a' haa'
    obtain rfl := Option.some.inj haa'
    exact ha
  | cons b bs ih =>
    obtain ⟨hb, hbs⟩ := List.forall_mem_cons.1 h
    intro a ha a' haa'
    obtain ⟨a₁, ha₁, hrest⟩ := Option.bind_eq_some_iff.1 haa'
    exact ih hbs a₁ (hb a ha a₁ ha₁) a' hrest

namespace Members

variable {ms ms' : Members} {name : String}

theorem fit_alter {f : Option Toml → Option Toml} (hf : Keeps (∀ v ∈ ·, v.Fits) Fits f)
    (hms : FitMembers ms) (h : ms' ∈ ms.alter name f) : FitMembers ms' := by
  induction ms generalizing ms' with
  | nil =>
    obtain ⟨v, hv, rfl⟩ := Option.map_eq_some_iff.1 h
    exact ⟨hf none (by simp) v hv, trivial⟩
  | cons m ms ih =>
    obtain ⟨hm, hms⟩ := hms
    rw [alter] at h
    split_ifs at h with hname
    · obtain ⟨v, hv, rfl⟩ := Option.map_eq_some_iff.1 h
      exact ⟨hf (some m.2) (by simpa using hm) v hv, hms⟩
    · obtain ⟨ms', hms', rfl⟩ := Option.map_eq_some_iff.1 h
      exact ⟨hm, ih hms hms'⟩

theorem fit_alterLast {f : Members → Option Members} (hf : Keeps FitMembers FitMembers f) :
    Keeps FitTables FitTables (alterLast f) := by
  intro ts hts ts' h
  induction ts generalizing ts' with
  | nil => contradiction
  | cons t ts ih =>
    obtain ⟨ht, hts⟩ := hts
    cases ts with
    | nil =>
      obtain ⟨t', ht', rfl⟩ := Option.map_eq_some_iff.1 h
      exact ⟨hf t ht t' ht', trivial⟩
    | cons u us =>
      obtain ⟨us', hus', rfl⟩ := Option.map_eq_some_iff.1 h
      exact ⟨ht, ih hts us' hus'⟩

theorem fits_table {f : Members → Option Members} (hf : Keeps FitMembers FitMembers f)
    {origin : TableOrigin} (hms : FitMembers ms) {v : Toml}
    (h : v ∈ (f ms).map (.table origin)) : v.Fits := by
  obtain ⟨ms', hms', rfl⟩ := Option.map_eq_some_iff.1 h
  exact hf ms hms ms' hms'

theorem fits_tables {f : Members → Option Members} (hf : Keeps FitMembers FitMembers f)
    {ts : List Members} (hts : FitTables ts) {v : Toml}
    (h : v ∈ (alterLast f ts).map .tables) : v.Fits := by
  obtain ⟨ts', hts', rfl⟩ := Option.map_eq_some_iff.1 h
  exact fit_alterLast hf ts hts ts' hts'

theorem fit_within {f : Members → Option Members} (hf : Keeps FitMembers FitMembers f)
    (path : List String) : Keeps FitMembers FitMembers (Members.within · path f) := by
  induction path with
  | nil => exact hf
  | cons key path ih =>
    intro ms hms ms' h
    refine fit_alter (fun o ho v hv => ?_) hms h
    match o with
    | none => exact fits_table ih fitMembers_nil hv
    | some (.table origin inner) =>
      have hinner : FitMembers inner := ho _ rfl
      cases origin with
      | inline => contradiction
      | _ => exact fits_table ih hinner hv
    | some (.tables ts) => exact fits_tables ih (ho _ rfl) hv

theorem fit_add {v : Toml} (hv : v.Fits) : Keeps FitMembers FitMembers (Members.add · name v) := by
  intro ms hms ms' h
  refine fit_alter (fun o _ w hw => ?_) hms h
  match o with
  | none =>
    obtain rfl := Option.some.inj hw
    exact hv

theorem fit_addDotted {v : Toml} (hv : v.Fits) : (path : List String) →
    Keeps FitMembers FitMembers (Members.addDotted · path name v)
  | [] => fit_add hv
  | [key] => by
    intro ms hms ms' h
    refine fit_alter (fun o ho w hw => ?_) hms h
    match o with
    | none => exact fits_table (fit_add hv) fitMembers_nil hw
    | some (.table .dotted inner) =>
      have hinner : FitMembers inner := ho _ rfl
      exact fits_table (fit_add hv) hinner hw
  | key :: next :: path => by
    have ih := fit_addDotted hv (next :: path)
    intro ms hms ms' h
    refine fit_alter (fun o ho w hw => ?_) hms h
    match o with
    | none => exact fits_table ih fitMembers_nil hw
    | some (.table .dotted inner) =>
      have hinner : FitMembers inner := ho _ rfl
      exact fits_table ih hinner hw
    | some (.table .implied inner) =>
      have hinner : FitMembers inner := ho _ rfl
      exact fits_table ih hinner hw
    | some (.tables ts) => exact fits_tables ih (ho _ rfl) hw

theorem fit_open : Keeps FitMembers FitMembers (Members.open · name) := by
  intro ms hms ms' h
  refine fit_alter (fun o ho w hw => ?_) hms h
  match o with
  | none =>
    obtain rfl := Option.some.inj hw
    trivial
  | some (.table .implied inner) =>
    have hinner : FitMembers inner := ho _ rfl
    obtain rfl := Option.some.inj hw
    exact hinner

theorem fit_openAnother : Keeps FitMembers FitMembers (Members.openAnother · name) := by
  intro ms hms ms' h
  refine fit_alter (fun o ho w hw => ?_) hms h
  match o with
  | none =>
    obtain rfl := Option.some.inj hw
    exact ⟨trivial, trivial⟩
  | some (.tables ts) =>
    have hts : FitTables ts := ho _ rfl
    obtain rfl := Option.some.inj hw
    rw [Fits, fitTables_iff] at *
    simpa [or_imp, forall_and, FitMembers] using hts

end Members

def Statement.Fits : Statement → Prop
  | .pair _ v => v.Fits
  | _ => True

theorem fit_apply {x : Statement} (hx : x.Fits) :
    Keeps (fun d : Draft => FitMembers d.root) (fun d => FitMembers d.root) (Draft.apply · x) := by
  intro d hd d' h
  cases x with
  | pair n v =>
    obtain ⟨root, hroot, heq⟩ := Option.bind_eq_some_iff.1 h
    obtain rfl := Option.some.inj heq
    exact Members.fit_within (Members.fit_addDotted hx n.path) d.current d.root hd root hroot
  | header n =>
    obtain ⟨root, hroot, heq⟩ := Option.bind_eq_some_iff.1 h
    obtain rfl := Option.some.inj heq
    exact Members.fit_within Members.fit_open n.path d.root hd root hroot
  | another n =>
    obtain ⟨root, hroot, heq⟩ := Option.bind_eq_some_iff.1 h
    obtain rfl := Option.some.inj heq
    exact Members.fit_within Members.fit_openAnother n.path d.root hd root hroot

theorem fit_ofStatements {ss : List Statement} (hss : ∀ x ∈ ss, x.Fits) {ms : Members}
    (h : ofStatements ss = some ms) : FitMembers ms := by
  obtain ⟨d, hd, rfl⟩ := Option.map_eq_some_iff.1 h
  exact keeps_foldlM (fun x hx => fit_apply (hss x hx)) ⟨[], []⟩ fitMembers_nil d hd

theorem fit_ofPairs {ps : List (Name × Toml)} (hps : ∀ p ∈ ps, p.2.Fits) {v : Toml}
    (h : ofPairs ps = some v) : v.Fits := by
  obtain ⟨ms, hms, rfl⟩ := Option.map_eq_some_iff.1 h
  have hadd : ∀ p ∈ ps, Keeps FitMembers FitMembers
      fun ms : Members => ms.addDotted p.1.path p.1.last p.2 :=
    fun p hp => Members.fit_addDotted (hps p hp) p.1.path
  exact keeps_foldlM hadd [] fitMembers_nil ms hms

/-! ### Values -/

theorem fit_inRange {i : ℤ} {v : Toml} (h : inRange i = some v) : v.Fits := by
  unfold inRange at h
  split_ifs at h with hi
  obtain rfl := Option.some.inj h
  have := (Int64.ofInt i).toInt_lt
  rw [Fits]
  omega

theorem fit_inBase {base : ℕ} {accepts : Char → Bool} {cs r : List Char} {v : Toml}
    (h : inBase base accepts cs = some (v, r)) : v.Fits := by
  simp only [inBase, Option.bind_eq_bind, Option.bind_eq_some_iff] at h
  obtain ⟨p, -, w, hw, heq⟩ := h
  cases heq
  exact fit_inRange hw

theorem fit_wholeNumber {cs r : List Char} {v : Toml} (h : wholeNumber cs = some (v, r)) :
    v.Fits := by
  unfold wholeNumber at h
  split at h
  · exact fit_inBase h
  · exact fit_inBase h
  · exact fit_inBase h
  · simp only [Option.bind_eq_bind, Option.bind_eq_some_iff] at h
    obtain ⟨p, -, w, hw, heq⟩ := h
    cases heq
    exact fit_inRange hw

theorem fit_dateOrTime {cs r : List Char} {v : Toml} (h : dateOrTime cs = some (v, r)) :
    v.Fits := by
  unfold dateOrTime at h
  split at h
  · -- a date, with or without a time after it
    dsimp only at h
    split at h <;>
    · cases h
      trivial
  · obtain ⟨p, -, heq⟩ := Option.map_eq_some_iff.1 h
    cases heq
    trivial

theorem fit_fractional {cs r : List Char} {v : Toml} (h : fractional cs = some (v, r)) :
    v.Fits := by
  simp only [fractional, Option.bind_eq_bind, Option.bind_eq_some_iff] at h
  obtain ⟨p, -, h⟩ := h
  split at h
  · split at h
    · simp only [Option.bind_some] at h
      split_ifs at h
      cases h
      trivial
    · simp only [Option.bind_some] at h
      split_ifs at h
      cases h
      trivial
  · obtain ⟨q, -, h⟩ := Option.bind_eq_some_iff.1 h
    split_ifs at h
    cases h
    trivial

theorem fit_namedReal {cs r : List Char} {v : Toml} (h : namedReal cs = some (v, r)) :
    v.Fits := by
  unfold namedReal at h
  split at h
  · cases h
    trivial
  · cases h
    trivial
  · contradiction

theorem fit_word {cs r : List Char} {v : Toml} (h : word cs = some (v, r)) : v.Fits := by
  unfold word at h
  split at h
  · cases h
    trivial
  · cases h
    trivial
  · contradiction

theorem fit_leaf {cs r : List Char} {v : Toml} (h : leaf cs = some (v, r)) : v.Fits := by
  unfold leaf at h
  split at h
  · obtain ⟨p, -, heq⟩ := Option.map_eq_some_iff.1 h
    cases heq
    trivial
  · obtain ⟨p, -, heq⟩ := Option.map_eq_some_iff.1 h
    cases heq
    trivial
  · simp only [Option.orElse_eq_orElse, Option.orElse_eq_or, Option.or_eq_some_iff] at h
    rcases h with h | ⟨-, h | ⟨-, h | ⟨-, h | ⟨-, h⟩⟩⟩⟩
    · exact fit_dateOrTime h
    · exact fit_fractional h
    · exact fit_namedReal h
    · exact fit_wholeNumber h
    · exact fit_word h

mutual
theorem fit_value : (n depth : ℕ) → (cs r : List Char) → (v : Toml) →
    value n depth cs = some (v, r) → v.Fits
  | 0, _, _, _, _, h => by contradiction
  | n + 1, depth, cs, r, v, h => by
    unfold value at h
    split at h
    · contradiction
    · contradiction
    · obtain ⟨p, hp, heq⟩ := Option.map_eq_some_iff.1 h
      cases heq
      exact fit_items n _ _ _ _ hp
    · simp only [Option.bind_eq_bind] at h
      split at h
      · rw [Option.bind_some] at h
        obtain ⟨w, hw, heq⟩ := Option.bind_eq_some_iff.1 h
        cases heq
        exact fit_ofPairs (by simp) hw
      · obtain ⟨p, hp, h⟩ := Option.bind_eq_some_iff.1 h
        obtain ⟨w, hw, heq⟩ := Option.bind_eq_some_iff.1 h
        cases heq
        exact fit_ofPairs (fit_members n _ _ _ _ hp) hw
    · exact fit_leaf h
theorem fit_items : (n depth : ℕ) → (cs r : List Char) → (xs : List Toml) →
    items n depth cs = some (xs, r) → FitItems xs
  | 0, _, _, _, _, h => by contradiction
  | n + 1, depth, cs, r, xs, h => by
    unfold items at h
    split at h
    · cases h
      trivial
    · simp only [Option.bind_eq_bind, Option.bind_eq_some_iff] at h
      obtain ⟨p, hp, h⟩ := h
      have hfirst := fit_value n depth _ _ _ hp
      split at h
      · obtain ⟨q, hq, heq⟩ := Option.map_eq_some_iff.1 h
        cases heq
        exact ⟨hfirst, fit_items n depth _ _ _ hq⟩
      · cases h
        exact ⟨hfirst, trivial⟩
      · contradiction
theorem fit_members : (n depth : ℕ) → (cs r : List Char) → (ps : List (Name × Toml)) →
    pairs n depth cs = some (ps, r) → ∀ p ∈ ps, p.2.Fits
  | 0, _, _, _, _, h => by contradiction
  | n + 1, depth, cs, r, ps, h => by
    unfold pairs at h
    simp only [Option.bind_eq_bind, Option.bind_eq_some_iff] at h
    obtain ⟨key, -, r₁, -, p, hp, h⟩ := h
    have hfirst := fit_value n depth _ _ _ hp
    split at h
    · obtain ⟨q, hq, heq⟩ := Option.map_eq_some_iff.1 h
      cases heq
      exact List.forall_mem_cons.2 ⟨hfirst, fit_members n depth _ _ _ hq⟩
    · cases h
      exact List.forall_mem_singleton.2 hfirst
    · contradiction
end

/-! ### Files -/

theorem fit_statement {cs r : List Char} {x : Statement} (h : statement cs = some (x, r)) :
    x.Fits := by
  unfold statement at h
  split at h
  · simp only [Option.bind_eq_bind, Option.bind_eq_some_iff] at h
    obtain ⟨n, -, r₁, -, r₂, -, heq⟩ := h
    cases heq
    trivial
  · simp only [Option.bind_eq_bind, Option.bind_eq_some_iff] at h
    obtain ⟨n, -, r₁, -, heq⟩ := h
    cases heq
    trivial
  · simp only [Option.bind_eq_bind, Option.bind_eq_some_iff] at h
    obtain ⟨n, -, r₁, -, p, hp, heq⟩ := h
    cases heq
    exact fit_value _ _ _ _ _ hp

theorem fit_statements {n : ℕ} {cs : List Char} {ss : List Statement}
    (h : statements n cs = some ss) : ∀ x ∈ ss, x.Fits := by
  induction n generalizing cs ss with
  | zero => contradiction
  | succ n ih =>
    unfold statements at h
    split at h
    · cases h
      simp
    · obtain ⟨r, -, hrest⟩ := Option.bind_eq_some_iff.1 h
      exact ih hrest
    · split at h
      · exact ih h
      · simp only [Option.bind_eq_bind, Option.bind_eq_some_iff] at h
        obtain ⟨p, hp, r, -, h⟩ := h
        obtain ⟨ss, hss, rfl⟩ := Option.map_eq_some_iff.1 h
        exact List.forall_mem_cons.2 ⟨fit_statement hp, ih hss⟩

/-- All whole numbers in a file that can be read are below 2^63. -/
theorem fit_read {text : String} {ms : Members} (h : read text = some ms) : FitMembers ms := by
  obtain ⟨ss, hss, hms⟩ := Option.bind_eq_some_iff.1 h
  exact fit_ofStatements (fit_statements hss) hms

end CodeHealth.Toml
