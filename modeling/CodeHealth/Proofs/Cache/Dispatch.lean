import CodeHealth.Proofs.Cache.Entries
import Mathlib

/-! What an event does to the cache, exactly. It marks the entries that it reaches, by their family
or by the thing that it happened to, and does nothing else; and it counts them, each once, although
it goes through the cache in two passes. -/

namespace CodeHealth.Cache

/-- The keys that have an entry. -/
def keySet (c : Cache) : Finset Key := c.keys.toFinset

variable (c : Cache)

theorem keys_perm : c.keys.Perm (c.entries.map Prod.fst) := List.mergeSort_perm _ _

theorem keySet_eq : c.keySet = (c.entries.map Prod.fst).toFinset :=
  List.toFinset_eq_of_perm _ _ c.keys_perm

theorem mem_keySet {k : Key} : k ∈ c.keySet ↔ c.contains k := by
  rw [keySet_eq, List.mem_toFinset, contains, get?, List.lookup_isSome_iff]
  simp

@[simp] theorem keys_mapEntries (f : Key → Entry → Entry) : (c.mapEntries f).keys = c.keys := by
  simp only [keys, mapEntries, map_fst_map]

@[simp] theorem keys_invalidate (p : Key → Bool) : (c.invalidate p).keys = c.keys :=
  c.keys_mapEntries _

@[simp] theorem keySet_invalidate (p : Key → Bool) : (c.invalidate p).keySet = c.keySet := by
  rw [keySet, keys_invalidate, keySet]

theorem keys_invalidateKeys (families : List Family) (ks : List Key) :
    (invalidateKeys families c ks).1.keys = c.keys := by
  induction ks generalizing c with
  | nil => rfl
  | cons k ks ih =>
    unfold invalidateKeys
    split_ifs
    · exact ih c
    · exact (ih _).trans (c.keys_invalidate _)

theorem invalidate_nothing : c.invalidate (fun _ => false) = c := by
  simp [invalidate, mapEntries]

/-! ### Counting -/

/-- No key has two entries, so entries are counted by their keys. -/
theorem countKeys_eq_card (p : Key → Bool) : c.countKeys p = (c.keySet.filter (p ·)).card := by
  calc c.countKeys p
      = ((c.entries.map Prod.fst).filter p).length := by
        rw [← List.countP_eq_length_filter, List.countP_map]
        rfl
    _ = ((c.entries.map Prod.fst).filter p).toFinset.card :=
        (List.toFinset_card_of_nodup (c.nodup.filter p)).symm
    _ = (c.keySet.filter (p ·)).card := by rw [keySet_eq, List.toFinset_filter]

/-- What satisfies one of two conditions, counted in two passes that have nothing in common. -/
theorem card_filter_or (s : Finset Key) (p q : Key → Prop) [DecidablePred p] [DecidablePred q] :
    (s.filter fun k => p k ∨ q k).card = (s.filter p).card + (s.filter fun k => q k ∧ ¬ p k).card := by
  have hsplit : (s.filter fun k => p k ∨ q k) = s.filter p ∪ s.filter fun k => q k ∧ ¬ p k := by
    rw [← Finset.filter_or]
    refine Finset.filter_congr fun k _ => ?_
    tauto
  rw [hsplit, Finset.card_union_of_disjoint]
  exact Finset.disjoint_filter.2 fun k _ hp hrest => hrest.2 hp

/-- The second pass counts the given keys that are there and that the first one has not covered. -/
theorem marked_invalidateKeys (families : List Family) {ks : List Key} (hks : ks.Nodup) :
    (invalidateKeys families c ks).2 =
      (c.keySet.filter fun k => k ∈ ks ∧ k.family ∉ families).card := by
  induction ks generalizing c with
  | nil => simp [invalidateKeys]
  | cons k ks ih =>
    obtain ⟨hk, hks⟩ := List.nodup_cons.1 hks
    unfold invalidateKeys
    split_ifs with hfamily
    · -- `k` itself is passed over
      rw [ih c hks]
      congr 1
      refine Finset.filter_congr fun k' _ => and_congr_left fun hk' => ?_
      rw [List.mem_cons, or_iff_right]
      rintro rfl
      exact hk' (List.contains_iff_mem.1 hfamily)
    · have hnew : k.family ∉ families := fun h => hfamily (List.contains_iff_mem.2 h)
      have hcons : ∀ k' ∈ c.keySet, (k' ∈ k :: ks ∧ k'.family ∉ families ↔
          k' = k ∨ k' ∈ ks ∧ k'.family ∉ families) := fun k' _ => by
        rw [List.mem_cons, or_and_right]
        refine or_congr_left ⟨And.left, ?_⟩
        rintro rfl
        exact ⟨rfl, hnew⟩
      have hrest : ∀ k' ∈ c.keySet, ((k' ∈ ks ∧ k'.family ∉ families) ∧ ¬ k' = k ↔
          k' ∈ ks ∧ k'.family ∉ families) := fun k' _ => by
        refine and_iff_left_of_imp fun hmem heq => hk ?_
        exact heq ▸ hmem.1
      have hone : (if c.contains k then 1 else 0) = (c.keySet.filter (· = k)).card := by
        simp only [← mem_keySet, Finset.filter_eq']
        split_ifs <;> rfl
      rw [Finset.filter_congr hcons, card_filter_or, Finset.filter_congr hrest, ← hone]
      simp only [ih _ hks, invalidateKey, keySet_invalidate]

end Cache

theorem Event.nodup_keysOf (e : Event) (id : Option String) : (e.keysOf id).Nodup := by
  cases id with
  | none => exact List.nodup_nil
  | some id => cases e <;> simp [keysOf, entityKeys, Key.fixPreview, Key.fixComments, Key.fix]

namespace Cache

/-- The two passes together count what the event reaches. -/
theorem marked_dispatch (c : Cache) (e : Event) (id : Option String) :
    (c.dispatch e id).2.marked =
      (c.keySet.filter fun k => k.family ∈ e.families ∨ k ∈ e.keysOf id).card := by
  simp only [card_filter_or, dispatch, marked_invalidateKeys _ _ (e.nodup_keysOf id),
    keySet_invalidate, countKeys_eq_card, List.contains_iff_mem]

/-- An event without families that happens to nothing leaves the cache alone. -/
theorem dispatch_of_isEntityScoped (c : Cache) {e : Event} (he : e.isEntityScoped) :
    c.dispatch e none = (c, ⟨e, [], [], 0⟩) := by
  have hfamilies : e.families = [] := List.isEmpty_iff.1 he
  have hnothing : c.countKeys (fun _ => false) = 0 := by simp [countKeys]
  simp [dispatch, hfamilies, Event.keysOf, invalidateKeys, invalidate_nothing, hnothing]

/-- Dispatch is exact. The keys stay, an entry is stale afterwards iff it was so before or the event
reaches it, nothing else changes in it, and the report counts the keys that are reached. -/
theorem dispatch_exact (c : Cache) (e : Event) (id : Option String) :
    let (after, report) := c.dispatch e id
    after.keys = c.keys ∧
    (∀ k, after.get? k = (c.get? k).map fun entry => { entry with
      stale := entry.stale || decide (k.family ∈ e.families ∨ k ∈ e.keysOf id) }) ∧
    report = ⟨e, e.families, e.keysOf id,
      (c.keySet.filter fun k => k.family ∈ e.families ∨ k ∈ e.keysOf id).card⟩ ∧
    (e.isEntityScoped → c.dispatch e none = (c, ⟨e, [], [], 0⟩)) := by
  refine ⟨?_, fun k => ?_, ?_, c.dispatch_of_isEntityScoped⟩
  · exact (keys_invalidateKeys _ _ _).trans (c.keys_invalidate _)
  · refine (c.get?_dispatch k e id).trans (congrArg (Option.map · (c.get? k)) (funext fun entry => ?_))
    have hreach : e.reaches id k = decide (k.family ∈ e.families ∨ k ∈ e.keysOf id) := by
      simp [Event.reaches]
    rw [hreach]
    split_ifs with h
    · simp [Entry.marked, h]
    · simp [h]
  · rw [← marked_dispatch]
    rfl

end Cache

end CodeHealth
