import CodeHealth.Proofs.Cache.Dispatch
import CodeHealth.Proofs.Cache.KeyOrder
import Mathlib

/-! The listings of the cache. The keys that have an entry are listed in strictly ascending order, all
together or those of one family; and since families come first in the order of keys, the listings of
the families, one after the other, are the listing of all. -/

namespace CodeHealth

namespace Key

theorem not_gt_iff {k k' : Key} : (order k k' != .gt) = true ↔ ¬ k'.Before k := by
  rw [bne_iff_ne, ne_eq, (compared_order k k').eq_gt_iff]

/-- Keys without repetition are sorted into strictly ascending order. -/
theorem pairwise_sort {ks : List Key} (h : ks.Nodup) : (sort ks).Pairwise Before := by
  -- sorting leaves no key before one that it comes after; that none is repeated makes this strict
  have hsorted : (sort ks).Pairwise fun k k' => (order k k' != .gt) = true := by
    refine List.pairwise_mergeSort (fun a b c hab hbc => ?_) (fun a b => ?_) ks
    · rw [not_gt_iff] at hab hbc ⊢
      exact IsOrderConnected.neg_trans hbc hab
    · rw [Bool.or_eq_true, not_gt_iff, not_gt_iff]
      exact not_and_or.1 fun hboth => asymm hboth.1 hboth.2
  have hdistinct : (sort ks).Nodup := (List.mergeSort_perm ks _).nodup_iff.2 h
  refine hsorted.imp₂ (fun k k' hle hne => ?_) hdistinct
  exact (trichotomous_of Before k k').resolve_right fun h => h.elim hne (not_gt_iff.1 hle)

theorem nodup_of_pairwise {ks : List Key} (h : ks.Pairwise Before) : ks.Nodup := h.imp ne_of_irrefl

/-- Two strictly ascending lists of the same keys are one list. -/
theorem eq_of_pairwise {ks ks' : List Key} (h : ks.Pairwise Before) (h' : ks'.Pairwise Before)
    (hmem : ∀ k, k ∈ ks ↔ k ∈ ks') : ks = ks' := by
  refine List.Perm.eq_of_pairwise (fun k k' _ _ hk hk' => absurd hk' (asymm hk)) h h' ?_
  exact (List.perm_ext_iff_of_nodup (nodup_of_pairwise h) (nodup_of_pairwise h')).2 hmem

end Key

namespace Cache

variable (c : Cache)

theorem pairwise_keys : c.keys.Pairwise Key.Before := Key.pairwise_sort c.nodup

theorem mem_keys_iff {k : Key} : k ∈ c.keys ↔ c.contains k :=
  List.mem_toFinset.symm.trans c.mem_keySet

theorem mem_keysIn_iff {f : Family} {k : Key} : k ∈ c.keysIn f ↔ c.contains k ∧ k.family = f := by
  simp [keysIn, mem_keys_iff]

theorem keysIn_sublist (f : Family) : (c.keysIn f).Sublist c.keys := List.filter_sublist

theorem pairwise_keysIn (f : Family) : (c.keysIn f).Pairwise Key.Before :=
  c.pairwise_keys.sublist (c.keysIn_sublist f)

/-- The families one after the other give strictly ascending keys. -/
theorem pairwise_flatMap_keysIn :
    ((Label.all : List Family).flatMap c.keysIn).Pairwise Key.Before := by
  have hall : (Label.all : List Family).Pairwise fun f g => f.ctorIdx < g.ctorIdx := by decide
  rw [List.pairwise_flatMap]
  refine ⟨fun f _ => c.pairwise_keysIn f, hall.imp fun hlt k hk k' hk' => ?_⟩
  obtain ⟨-, rfl⟩ := c.mem_keysIn_iff.1 hk
  obtain ⟨-, rfl⟩ := c.mem_keysIn_iff.1 hk'
  exact .left _ _ hlt

theorem keys_eq_flatMap : c.keys = (Label.all : List Family).flatMap c.keysIn := by
  refine Key.eq_of_pairwise c.pairwise_keys c.pairwise_flatMap_keysIn fun k => ?_
  simp [mem_keys_iff, mem_keysIn_iff, Label.mem_all]

/-- A key is listed under its own family if it is kept, and under no other. -/
theorem filter_keysIn (k : Key) :
    (Label.all : List Family).filter (fun f => k ∈ c.keysIn f) =
      if c.contains k then [k.family] else [] := by
  have hnodup : (Label.all : List Family).Nodup := by decide
  split_ifs with h
  · have hown : ∀ f ∈ (Label.all : List Family),
        decide (k ∈ c.keysIn f) = decide (f = k.family) := fun f _ => by
      simp [mem_keysIn_iff, h, eq_comm]
    rw [List.filter_congr hown, List.filter_eq, List.count_eq_one_of_mem hnodup (Label.mem_all _)]
    rfl
  · simp [mem_keysIn_iff, h]

/-- Keys are totally ordered, by family as declared, then part by part; comparing them tells their
order, and says that they are equal just when they are. In every cache, the keys that have an entry are
listed in strictly ascending order, each once and no others; those of one family are listed likewise,
among the former in the same order; and the families in order list together what is listed overall, so
that each of the keys is listed under exactly one family, its own. -/
theorem keys_listed_in_order :
    IsStrictTotalOrder Key Key.Before ∧
    (∀ k k' : Key, (k.order k' = .lt ↔ k.Before k') ∧ (k.order k' = .eq ↔ k = k') ∧
      (k.order k' = .gt ↔ k'.Before k)) ∧
    (c.keys.Pairwise Key.Before ∧ ∀ k, k ∈ c.keys ↔ c.contains k) ∧
    (∀ f, (c.keysIn f).Pairwise Key.Before ∧ (c.keysIn f).Sublist c.keys ∧
      ∀ k, k ∈ c.keysIn f ↔ c.contains k ∧ k.family = f) ∧
    c.keys = (Label.all : List Family).flatMap c.keysIn ∧
    ∀ k, (Label.all : List Family).filter (fun f => k ∈ c.keysIn f) =
      if c.contains k then [k.family] else [] :=
  ⟨inferInstance,
    fun k k' => ⟨(Key.compared_order k k').eq_lt_iff, (Key.compared_order k k').eq_eq_iff,
      (Key.compared_order k k').eq_gt_iff⟩,
    ⟨c.pairwise_keys, fun _ => c.mem_keys_iff⟩,
    fun f => ⟨c.pairwise_keysIn f, c.keysIn_sublist f, fun _ => c.mem_keysIn_iff⟩,
    c.keys_eq_flatMap, c.filter_keysIn⟩

end Cache

end CodeHealth
