import CodeHealth.Json.Tree
import CodeHealth.Proofs.Text.Order
import Mathlib

/-! The members of a record after they have been put in order. Only a name itself compares as equal to
it; members of distinct names are therefore all there after sorting, and each is found under its
name. -/

namespace CodeHealth

theorem lookup_cons_ite {κ α : Type} [DecidableEq κ] (p : κ × α) (ps : List (κ × α)) (k : κ) :
    (p :: ps).lookup k = if k = p.1 then some p.2 else ps.lookup k := by
  rw [List.lookup_cons]
  by_cases h : k = p.1
  · simp [h]
  · rw [if_neg h, beq_eq_false_iff_ne.2 h]

namespace Json

variable {α : Type}

/-- A member of a new name is added and no other is lost. -/
theorem insert_perm {name : String} (v : α) {ms : List (String × α)}
    (h : name ∉ ms.map Prod.fst) : (insert name v ms).Perm ((name, v) :: ms) := by
  induction ms with
  | nil => rfl
  | cons m ms ih =>
    obtain ⟨n, w⟩ := m
    simp only [List.map_cons, List.mem_cons, not_or] at h
    unfold insert
    split
    · rfl
    · rename_i heq
      exact absurd (Text.eq_of_order_eq heq) h.1
    · exact ((ih h.2).cons _).trans (List.Perm.swap _ _ _)

theorem foldl_insert_perm (ms sorted : List (String × α))
    (h : ((sorted ++ ms).map Prod.fst).Nodup) :
    (ms.foldl (fun sorted m => insert m.1 m.2 sorted) sorted).Perm (sorted ++ ms) := by
  induction ms generalizing sorted with
  | nil => simp
  | cons m ms ih =>
    have hswap : (sorted ++ m :: ms).Perm (m :: sorted ++ ms) := List.perm_middle
    have hnodup : ((m :: sorted ++ ms).map Prod.fst).Nodup := (hswap.map _).nodup_iff.1 h
    have hnew : m.1 ∉ sorted.map Prod.fst := by
      intro hmem
      obtain ⟨k, hk, heq⟩ := List.mem_map.1 hmem
      exact (List.nodup_cons.1 hnodup).1
        (List.mem_map.2 ⟨k, List.mem_append_left _ hk, heq⟩)
    have hinsert := insert_perm m.2 hnew
    have hstep : (insert m.1 m.2 sorted ++ ms).Perm (m :: sorted ++ ms) := hinsert.append_right ms
    rw [List.foldl_cons]
    exact (ih _ ((hstep.map _).nodup_iff.2 hnodup)).trans (hstep.trans hswap.symm)

/-- Sorting keeps all members, if their names are distinct. -/
theorem ofMembers_perm {ms : List (String × α)} (h : (ms.map Prod.fst).Nodup) :
    (ofMembers ms).Perm ms := by
  exact foldl_insert_perm ms [] h

theorem treeMembers_eq_map (ms : List (String × Json)) :
    treeMembers ms = ms.map fun m => (some m.1, m.2.tree) := by
  induction ms with
  | nil => rfl
  | cons m ms ih => rw [treeMembers, ih, List.map_cons]

theorem treeAll_eq_map (xs : List Json) : treeAll xs = xs.map tree := by
  induction xs with
  | nil => rfl
  | cons x xs ih => rw [treeAll, ih, List.map_cons]

theorem plainAll_eq_map (xs : List Json) : plainAll xs = xs.map plain := by
  induction xs with
  | nil => rfl
  | cons x xs ih => rw [plainAll, ih, List.map_cons]

theorem all_isSome_treeMembers (ms : List (String × Json)) :
    (treeMembers ms).all (·.1.isSome) = true := by
  simp [treeMembers_eq_map]

theorem filter_name_of_nodup {ms : List (String × α)} (h : (ms.map Prod.fst).Nodup)
    {m : String × α} (hm : m ∈ ms) : ms.filter (·.1 == m.1) = [m] := by
  induction ms with
  | nil => simp at hm
  | cons k ms ih =>
    obtain ⟨hk, hms⟩ := List.nodup_cons.1 h
    rcases List.mem_cons.1 hm with rfl | hm
    · have hnone : ms.filter (·.1 == m.1) = [] := by
        rw [List.filter_eq_nil_iff]
        intro n hn heq
        exact hk (List.mem_map.2 ⟨n, hn, by simpa using heq⟩)
      simp [hnone]
    · have hne : k.1 ≠ m.1 := fun heq => hk (List.mem_map.2 ⟨m, hm, heq.symm⟩)
      simp [hne, ih hms hm]

/-- In a sorted record whose names were distinct, a name stands for just its own member. -/
theorem filter_treeMembers_ofMembers {ms : List (String × Json)} (h : (ms.map Prod.fst).Nodup)
    {name : String} {v : Json} (hm : (name, v) ∈ ms) :
    (treeMembers (ofMembers ms)).filter (·.1 == some name) = [(some name, v.tree)] := by
  have hperm := (ofMembers_perm h).filter (·.1 == name)
  rw [filter_name_of_nodup h hm, List.perm_singleton] at hperm
  have hcomp : ((fun m : Option String × Tree => m.1 == some name) ∘
      fun m : String × Json => (some m.1, m.2.tree)) = fun m => m.1 == name := by
    funext m
    rfl
  rw [treeMembers_eq_map, List.filter_map, hcomp, hperm]
  rfl

/-! ### Looking up -/

section

variable {ms ns : List (String × α)} {name : String} {v : α}

theorem mem_of_lookup (h : ms.lookup name = some v) : (name, v) ∈ ms := by
  obtain ⟨before, after, rfl, -⟩ := List.lookup_eq_some_iff.1 h
  simp

theorem exists_lookup_of_mem (h : (name, v) ∈ ms) : ∃ w, ms.lookup name = some w := by
  rw [← Option.isSome_iff_exists, List.lookup_isSome_iff]
  exact ⟨_, h, beq_self_eq_true name⟩

/-- What is found under a name depends on nothing but the values that stand under it, if there is
at most one. -/
theorem lookup_congr (hns : (ns.map Prod.fst).Nodup)
    (h : ∀ v, (name, v) ∈ ms ↔ (name, v) ∈ ns) : ms.lookup name = ns.lookup name := by
  ext v
  constructor
  · intro hv
    have hmem := (h v).1 (mem_of_lookup hv)
    obtain ⟨w, hw⟩ := exists_lookup_of_mem hmem
    obtain ⟨-, rfl⟩ := Prod.mk.inj (List.inj_on_of_nodup_map hns hmem (mem_of_lookup hw) rfl)
    exact hw
  · intro hv
    obtain ⟨w, hw⟩ := exists_lookup_of_mem ((h v).2 (mem_of_lookup hv))
    have hmem := (h w).1 (mem_of_lookup hw)
    obtain ⟨-, rfl⟩ := Prod.mk.inj (List.inj_on_of_nodup_map hns hmem (mem_of_lookup hv) rfl)
    exact hw

/-- Sorting does not change what is found under a name. -/
theorem lookup_ofMembers (h : (ms.map Prod.fst).Nodup) (name : String) :
    (ofMembers ms).lookup name = ms.lookup name :=
  lookup_congr h fun _ => (ofMembers_perm h).mem_iff

end

theorem plainMembers_eq_map (ms : List (String × Json)) :
    plainMembers ms = ms.map fun m => (m.1, m.2.plain) := by
  induction ms with
  | nil => rfl
  | cons m ms ih => rw [plainMembers, ih, List.map_cons]

theorem lookup_plainMembers (ms : List (String × Json)) (name : String) :
    (plainMembers ms).lookup name = (ms.lookup name).map plain := by
  induction ms with
  | nil => rfl
  | cons m ms ih =>
    rw [plainMembers, lookup_cons_ite, lookup_cons_ite, ih]
    split_ifs <;> rfl

/-- The members of a plain record are the plain ones. -/
theorem get?_plain_record {ms : List (String × Json)} (h : (ms.map Prod.fst).Nodup)
    (name : String) : (record ms).plain.get? name = (ms.lookup name).map plain := by
  have hnames : ((plainMembers ms).map Prod.fst).Nodup := by
    rwa [plainMembers_eq_map, List.map_map]
  rw [plain, get?, lookup_ofMembers hnames, lookup_plainMembers]

end Json

end CodeHealth
