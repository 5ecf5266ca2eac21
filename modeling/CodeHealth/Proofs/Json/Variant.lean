import CodeHealth.Proofs.Json.Optional
import Mathlib

/-! Payloads from a service that changes. A record may come with its members in another order, with
members that its shape does not name, and without members that say what is taken anyway when they are
missing, in itself or in any record inside of it: what is read of it is the same. But without a member
that has no default nothing is read. -/

namespace CodeHealth.Shape

open Json (Tree)

/-- The record has a field of that name, shape and default, with so many fields before it. -/
inductive Fields.Has : {α β : Type} → Fields β → ℕ → String → Shape α → Option α → Prop where
  | first {α β : Type} (name : String) (s : Shape α) (absent : Option α) (rest : Fields β) :
      Fields.Has (.cons name s absent rest) 0 name s absent
  | next {α β γ : Type} {rest : Fields β} {place : ℕ} {name : String} {s : Shape α}
      {absent : Option α} (name' : String) (s' : Shape γ) (absent' : Option γ) :
      Fields.Has rest place name s absent →
      Fields.Has (.cons name' s' absent' rest) (place + 1) name s absent

/-- One tree may stand for the other wherever a value of that shape is expected. -/
inductive Variant : {α : Type} → Shape α → Tree → Tree → Prop where
  | refl {α : Type} (s : Shape α) (t : Tree) : Variant s t t
  | symm {α : Type} {s : Shape α} {t t' : Tree} : Variant s t t' → Variant s t' t
  | trans {α : Type} {s : Shape α} {t t' t'' : Tree} :
      Variant s t t' → Variant s t' t'' → Variant s t t''
  /-- Members may be in any order. -/
  | order {α β : Type} {fields : Fields β} (view : View α β) {ms ms' : List (Option String × Tree)} :
      ms.Perm ms' → Variant (.record fields view) (.record ms) (.record ms')
  /-- There may be a member of a name that no field has. -/
  | unknown {α β : Type} {fields : Fields β} (view : View α β) {name : String} (t : Tree)
      (ms : List (Option String × Tree)) : name ∉ Fields.names fields →
      Variant (.record fields view) (.record ms) (.record ((some name, t) :: ms))
  /-- The only member of a name may be left out, if it carries the default of that field. -/
  | default {α β γ : Type} {fields : Fields β} (view : View α β) {place : ℕ} {name : String}
      {s : Shape γ} {a : γ} {t : Tree} {ms : List (Option String × Tree)} :
      Fields.Has fields place name s (some a) → s.decode t = some a →
      (∀ m ∈ ms, m.1 ≠ some name) →
      Variant (.record fields view) (.record ((some name, t) :: ms)) (.record ms)
  /-- A variant may stand inside of a member, -/
  | member {α β γ : Type} {fields : Fields β} (view : View α β) {place : ℕ} {name : String}
      {s : Shape γ} {absent : Option γ} {t t' : Tree} (ms : List (Option String × Tree)) :
      Fields.Has fields place name s absent → Variant s t t' →
      Variant (.record fields view) (.record ((some name, t) :: ms))
        (.record ((some name, t') :: ms))
  /-- of a field given by its place, -/
  | place {α β γ : Type} {fields : Fields β} (view : View α β) {name : String} {s : Shape γ}
      {absent : Option γ} {t t' : Tree} (before after : List Tree) :
      Fields.Has fields before.length name s absent → Variant s t t' →
      Variant (.record fields view) (.list (before ++ t :: after)) (.list (before ++ t' :: after))
  /-- of an item of a list, -/
  | item {α : Type} {s : Shape α} {t t' : Tree} (before after : List Tree) : Variant s t t' →
      Variant (.list s) (.list (before ++ t :: after)) (.list (before ++ t' :: after))
  /-- and of an optional value. -/
  | option {α : Type} {s : Shape α} {t t' : Tree} : Variant s t t' → Variant (.option s) t t'

/-- In the record, or in a record inside of it, there is no member for a field that has no
default. -/
inductive Lacks : {α : Type} → Shape α → Tree → Prop where
  | here {α β γ : Type} {fields : Fields β} (view : View α β) {place : ℕ} {name : String}
      {s : Shape γ} {ms : List (Option String × Tree)} : Fields.Has fields place name s none →
      (∀ m ∈ ms, m.1 ≠ some name) → Lacks (.record fields view) (.record ms)
  | member {α β γ : Type} {fields : Fields β} (view : View α β) {place : ℕ} {name : String}
      {s : Shape γ} {absent : Option γ} {t : Tree} {ms : List (Option String × Tree)} :
      Fields.Has fields place name s absent → (some name, t) ∈ ms → Lacks s t →
      Lacks (.record fields view) (.record ms)
  | place {α β γ : Type} {fields : Fields β} (view : View α β) {place : ℕ} {name : String}
      {s : Shape γ} {absent : Option γ} {t : Tree} {ts : List Tree} :
      Fields.Has fields place name s absent → ts[place]? = some t → Lacks s t →
      Lacks (.record fields view) (.list ts)
  | item {α : Type} {s : Shape α} {t : Tree} {ts : List Tree} : t ∈ ts → Lacks s t →
      Lacks (.list s) (.list ts)
  | option {α : Type} {s : Shape α} {t : Tree} : Lacks s t → Lacks (.option s) t

variable {α β : Type} {s : Shape α} {fields : Fields β} {name : String} {absent : Option α}
  {place : ℕ} {ms ms' : List (Option String × Tree)} {t t' : Tree}

theorem Fields.Has.mem_names (h : Fields.Has fields place name s absent) :
    name ∈ Fields.names fields := by
  induction h with
  | first => exact List.mem_cons_self
  | next _ _ _ _ ih => exact List.mem_cons_of_mem _ ih

theorem Fields.Has.isRegular (h : Fields.Has fields place name s absent)
    (hfields : Fields.isRegular fields) : s.isRegular := by
  induction h with
  | first name s absent rest =>
    obtain ⟨⟨-, hs⟩, -, -⟩ := (Fields.isRegular_cons name s absent rest).1 hfields
    exact hs
  | next name' s' absent' _ ih =>
    obtain ⟨-, -, hrest⟩ := (Fields.isRegular_cons name' s' absent' _).1 hfields
    exact ih hrest

/-! ### Members of a name -/

/-- The value of the only member of a name, or that there is none; and nothing if there are more. -/
def given (name : String) (ms : List (Option String × Tree)) : Option (Option Tree) :=
  match ms.filter (·.1 == some name) with
  | [] => some none
  | [m] => some (some m.2)
  | _ => none

/-- What a field is read as. -/
def fieldValue (s : Shape α) (absent : Option α) : Option (Option Tree) → Option α
  | none => none
  | some none => absent
  | some (some t) => s.decode t

theorem Fields.decode_cons (rest : Fields β) (ms : List (Option String × Tree)) :
    Fields.decode (.cons name s absent rest) ms =
      (do some (← fieldValue s absent (given name ms), ← Fields.decode rest ms)) := by
  rw [Fields.decode, given]
  cases ms.filter (·.1 == some name) with
  | nil => rfl
  | cons m more => cases more <;> rfl

theorem given_perm (h : ms.Perm ms') (name : String) : given name ms = given name ms' := by
  have hperm := h.filter (·.1 == some name)
  unfold given
  split
  next hnone =>
    rw [hnone, List.nil_perm] at hperm
    rw [hperm]
  next m hone =>
    rw [hone, List.singleton_perm] at hperm
    rw [← hperm]
  next hnil hone =>
    split
    next hnone =>
      rw [hnone, List.perm_nil] at hperm
      exact absurd hperm hnil
    next m hm =>
      rw [hm, List.perm_singleton] at hperm
      exact absurd hperm (hone m)
    next => rfl

theorem given_cons_of_ne {m : Option String × Tree} (h : m.1 ≠ some name)
    (ms : List (Option String × Tree)) : given name (m :: ms) = given name ms := by
  rw [given, List.filter_cons_of_neg (by simpa using h), given]

theorem filter_eq_nil_iff_forall_ne :
    ms.filter (·.1 == some name) = [] ↔ ∀ m ∈ ms, m.1 ≠ some name := by
  simp [List.filter_eq_nil_iff]

theorem given_of_forall_ne (h : ∀ m ∈ ms, m.1 ≠ some name) : given name ms = some none := by
  rw [given, filter_eq_nil_iff_forall_ne.2 h]

theorem given_cons_self (t : Tree) (ms : List (Option String × Tree)) :
    given name ((some name, t) :: ms) =
      if ∀ m ∈ ms, m.1 ≠ some name then some (some t) else none := by
  rw [given, List.filter_cons_of_pos (by simp)]
  split_ifs with h
  · rw [filter_eq_nil_iff_forall_ne.2 h]
  · obtain ⟨m, more, hmany⟩ := List.exists_cons_of_ne_nil (mt filter_eq_nil_iff_forall_ne.1 h)
    rw [hmany]

/-! ### Fields -/

/-- What is read depends on each field alone. -/
theorem Fields.decode_congr {β : Type} : (fields : Fields β) →
    (∀ n ∈ Fields.names fields, given n ms = given n ms') →
    Fields.decode fields ms = Fields.decode fields ms'
  | .nil, _ => rfl
  | .cons name s absent rest, h => by
    rw [decode_cons, decode_cons, h name List.mem_cons_self,
      decode_congr rest fun n hn => h n (List.mem_cons_of_mem _ hn)]

/-- Two records that differ in one field only are the same if it is read the same. -/
theorem Fields.decode_eq_of_field (h : Fields.Has fields place name s absent)
    (hnames : (Fields.names fields).Nodup)
    (hothers : ∀ n, n ≠ name → given n ms = given n ms')
    (hfield : fieldValue s absent (given name ms) = fieldValue s absent (given name ms')) :
    Fields.decode fields ms = Fields.decode fields ms' := by
  induction h with
  | first name s absent rest =>
    have hrest : Fields.decode rest ms = Fields.decode rest ms' := by
      refine decode_congr rest fun n hn => hothers n ?_
      rintro rfl
      exact (List.nodup_cons.1 hnames).1 hn
    rw [decode_cons, decode_cons, hfield, hrest]
  | next name' s' absent' h ih =>
    obtain ⟨hname, hnames⟩ := List.nodup_cons.1 hnames
    have hne : name' ≠ _ := fun heq => hname (heq ▸ h.mem_names)
    rw [decode_cons, decode_cons, hothers name' hne, ih hnames hothers hfield]

theorem Fields.decodeList_eq_of_field {before : List Tree} (after : List Tree)
    (h : Fields.Has fields before.length name s absent) (heq : s.decode t = s.decode t') :
    Fields.decodeList fields (before ++ t :: after) =
      Fields.decodeList fields (before ++ t' :: after) := by
  generalize hplace : before.length = place at h
  induction h generalizing before with
  | first name s absent rest =>
    obtain rfl := List.length_eq_zero_iff.1 hplace
    rw [List.nil_append, List.nil_append, decodeList, decodeList, heq]
  | next name' s' absent' h ih =>
    obtain ⟨first, before, rfl⟩ := List.exists_cons_of_length_eq_add_one hplace
    rw [List.cons_append, List.cons_append, decodeList, decodeList,
      ih heq (Nat.succ_injective hplace)]

/-- A field that cannot be read makes the record unreadable. -/
theorem Fields.decode_eq_none (h : Fields.Has fields place name s absent)
    (hfield : fieldValue s absent (given name ms) = none) : Fields.decode fields ms = none := by
  induction h with
  | first name s absent rest => rw [decode_cons, hfield]; rfl
  | next name' s' absent' h ih =>
    rw [decode_cons, ih hfield]
    cases fieldValue s' absent' (given name' ms) <;> rfl

theorem Fields.decodeList_eq_none {ts : List Tree} (h : Fields.Has fields place name s absent)
    (ht : ts[place]? = some t) (hnone : s.decode t = none) :
    Fields.decodeList fields ts = none := by
  induction h generalizing ts with
  | first name s absent rest =>
    cases ts with
    | nil => contradiction
    | cons first after =>
      obtain rfl : first = t := Option.some.inj ht
      rw [decodeList, hnone]
      rfl
  | next name' s' absent' h ih =>
    cases ts with
    | nil => contradiction
    | cons first after =>
      rw [decodeList, ih ht hnone]
      cases s'.decode first <;> rfl

/-! ### Trees that stand for each other -/

theorem Variant.eq_null_iff (h : Variant s t t') : t = .null ↔ t' = .null := by
  induction h with
  | refl => exact Iff.rfl
  | symm _ ih => exact ih.symm
  | trans _ _ ih ih' => exact ih.trans ih'
  | option _ ih => exact ih
  | _ => simp

theorem Lacks.ne_null (h : Lacks s t) : t ≠ .null := by
  induction h with
  | option _ ih => exact ih
  | _ => simp

theorem decode_option_of_ne_null (h : t ≠ .null) :
    (Shape.option s).decode t = (s.decode t).map some := by
  cases t <;> first | rfl | contradiction

theorem decode_option_eq (hnull : t = .null ↔ t' = .null) (h : s.decode t = s.decode t') :
    (Shape.option s).decode t = (Shape.option s).decode t' := by
  by_cases ht : t = .null
  · rw [ht, hnull.1 ht]
  · rw [decode_option_of_ne_null ht, decode_option_of_ne_null (mt hnull.2 ht), h]

theorem mapM_eq_of_item {γ δ : Type} {f : γ → Option δ} {x x' : γ} (h : f x = f x')
    (before after : List γ) :
    (before ++ x :: after).mapM f = (before ++ x' :: after).mapM f := by
  simp only [List.mapM_append, List.mapM_cons, h]

theorem mapM_eq_none {γ δ : Type} {f : γ → Option δ} {x : γ} {xs : List γ} (hx : x ∈ xs)
    (h : f x = none) : xs.mapM f = none := by
  obtain ⟨before, after, rfl⟩ := List.append_of_mem hx
  simp [List.mapM_append, List.mapM_cons, h]

theorem decode_record_eq_of {view : View α β}
    (hnames : ms.all (·.1.isSome) = ms'.all (·.1.isSome))
    (hfields : Fields.decode fields ms = Fields.decode fields ms') :
    (Shape.record fields view).decode (.record ms) =
      (Shape.record fields view).decode (.record ms') := by
  rw [decode, decode, hnames, hfields]

theorem Variant.decode_eq (h : Variant s t t') (hs : s.isRegular) : s.decode t = s.decode t' := by
  induction h with
  | refl => rfl
  | symm _ ih => exact (ih hs).symm
  | trans _ _ ih ih' => exact (ih hs).trans (ih' hs)
  | order view hperm =>
    exact decode_record_eq_of hperm.all_eq
      (Fields.decode_congr _ fun n _ => given_perm hperm n)
  | unknown view t ms hname =>
    refine decode_record_eq_of (by simp) (Fields.decode_congr _ fun n hn => ?_)
    rw [given_cons_of_ne]
    rintro ⟨⟩
    exact hname hn
  | default view hfield hdefault hnone =>
    obtain ⟨hnames, -⟩ := (isRegular_record _ view).1 hs
    refine decode_record_eq_of (by simp) (Fields.decode_eq_of_field hfield hnames ?_ ?_)
    · intro n hne
      exact given_cons_of_ne (by simpa using hne.symm) _
    · rw [given_cons_self, if_pos hnone, given_of_forall_ne hnone]
      exact hdefault
  | member view ms hfield _ ih =>
    obtain ⟨hnames, hfields⟩ := (isRegular_record _ view).1 hs
    refine decode_record_eq_of (by simp) (Fields.decode_eq_of_field hfield hnames ?_ ?_)
    · intro n hne
      rw [given_cons_of_ne (by simpa using hne.symm), given_cons_of_ne (by simpa using hne.symm)]
    · rw [given_cons_self, given_cons_self]
      split_ifs
      · exact ih (hfield.isRegular hfields)
      · rfl
  | place view before after hfield _ ih =>
    obtain ⟨-, hfields⟩ := (isRegular_record _ view).1 hs
    rw [decode, decode, Fields.decodeList_eq_of_field after hfield (ih (hfield.isRegular hfields))]
  | item before after _ ih =>
    obtain ⟨-, hs⟩ := (isRegular_list _).1 hs
    exact mapM_eq_of_item (ih hs) before after
  | option h ih =>
    obtain ⟨-, hs⟩ := (isRegular_option _).1 hs
    exact decode_option_eq h.eq_null_iff (ih hs)

theorem fieldValue_given_eq_none (h : (some name, t) ∈ ms) (hnone : s.decode t = none) :
    fieldValue s absent (given name ms) = none := by
  obtain ⟨before, after, rfl⟩ := List.append_of_mem h
  rw [given_perm List.perm_middle, given_cons_self]
  split_ifs
  · exact hnone
  · rfl

theorem decode_record_eq_none {view : View α β} (h : Fields.decode fields ms = none) :
    (Shape.record fields view).decode (.record ms) = none := by
  rw [decode, h]
  simp

theorem Lacks.decode_eq_none (h : Lacks s t) : s.decode t = none := by
  induction h with
  | here view hfield hnone =>
    refine decode_record_eq_none (Fields.decode_eq_none hfield ?_)
    rw [given_of_forall_ne hnone]
    rfl
  | member view hfield hmem _ ih =>
    exact decode_record_eq_none (Fields.decode_eq_none hfield (fieldValue_given_eq_none hmem ih))
  | place view hfield ht _ ih =>
    rw [decode, Fields.decodeList_eq_none hfield ht ih]
    rfl
  | item hmem _ ih => exact mapM_eq_none hmem ih
  | option h ih => rw [decode_option_of_ne_null h.ne_null, ih, Option.map_none]

end CodeHealth.Shape
