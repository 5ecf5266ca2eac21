import CodeHealth.Cache.Event
import CodeHealth.Proofs.Json.Members
import Mathlib

/-! What each operation of the cache does to the entry of one key. The entry of a key is the only
view of the cache that the later modules use: `get?` after an operation is a function of `get?`
before it, and of nothing that is kept under other keys. -/

namespace CodeHealth.Cache

theorem lookup_map_entry (f : Key → Entry → Entry) (es : List (Key × Entry)) (k : Key) :
    (es.map fun p => (p.1, f p.1 p.2)).lookup k = (es.lookup k).map (f k) := by
  induction es with
  | nil => rfl
  | cons p es ih =>
    obtain ⟨k', e⟩ := p
    simp only [List.map_cons, lookup_cons_ite, ih]
    split_ifs with h
    · rw [h, Option.map_some]
    · rfl

theorem lookup_filter_ne (es : List (Key × Entry)) (k k' : Key) :
    (es.filter (·.1 ≠ k)).lookup k' = if k' = k then none else es.lookup k' := by
  induction es with
  | nil => simp
  | cons p es ih =>
    obtain ⟨k₀, e⟩ := p
    by_cases hp : k₀ = k
    · rw [List.filter_cons_of_neg (by simp [hp]), ih, lookup_cons_ite, hp]
      split_ifs <;> rfl
    · rw [List.filter_cons_of_pos (by simp [hp]), lookup_cons_ite, lookup_cons_ite, ih]
      split_ifs with h₀ hk
      · exact absurd (h₀.symm.trans hk) hp
      · rfl
      · rfl
      · rfl

variable (c : Cache) (k k' : Key)

@[simp] theorem get?_empty : empty.get? k = none := rfl

@[simp] theorem get?_mapEntries (f : Key → Entry → Entry) :
    (c.mapEntries f).get? k = (c.get? k).map (f k) :=
  lookup_map_entry f c.entries k

theorem get?_put (e : Entry) : (c.put k e).get? k' = if k' = k then some e else c.get? k' := by
  unfold put
  split_ifs with hmem hk hk
  · subst hk
    have hsome : (c.get? k').isSome := by
      rw [get?, List.lookup_isSome_iff]
      obtain ⟨p, hp, hpk⟩ := List.mem_map.1 hmem
      exact ⟨p, hp, by simp [hpk]⟩
    obtain ⟨e', he'⟩ := Option.isSome_iff_exists.1 hsome
    simp [he']
  · simp [hk]
  · subst hk
    have hnone : c.entries.lookup k' = none := by
      rw [List.lookup_eq_none_iff]
      intro p hp
      rw [bne_iff_ne]
      rintro rfl
      exact hmem (List.mem_map_of_mem hp)
    simp [get?, List.lookup_append, hnone]
  · simp [get?, List.lookup_append, lookup_cons_ite, hk]

@[simp] theorem get?_erase : (c.erase k).get? k' = if k' = k then none else c.get? k' :=
  lookup_filter_ne c.entries k k'

@[simp] theorem get?_invalidate (p : Key → Bool) :
    (c.invalidate p).get? k = (c.get? k).map fun e => if p k then e.marked else e :=
  get?_mapEntries c k _

theorem get?_invalidateKey :
    (c.invalidateKey k).1.get? k' = (c.get? k').map fun e => if k' = k then e.marked else e := by
  simp [invalidateKey]

theorem get?_storeSuccess (data : Json) :
    (c.storeSuccess k data).get? k' =
      if k' = k then some ⟨some data, none, false, ((c.get? k).map (·.fetches)).getD 0 + 1⟩
      else c.get? k' :=
  get?_put c k k' _

/-- The entry that a failed fetch leaves where there was the entry `old` or none. -/
def failedEntry (old : Option Entry) (error : Fault) : Entry :=
  match old with
  | some e => { e with error := some error, stale := true, fetches := e.fetches + 1 }
  | none => ⟨none, some error, true, 1⟩

@[simp] theorem stale_failedEntry (old : Option Entry) (error : Fault) :
    (failedEntry old error).stale = true := by
  cases old <;> rfl

theorem get?_storeError (error : Fault) :
    (c.storeError k error).get? k' =
      if k' = k then some (failedEntry (c.get? k) error) else c.get? k' := by
  unfold storeError failedEntry
  cases h : c.get? k <;> simp only [get?_put]

/-! ### Dispatching an event -/

@[simp] theorem marked_marked (e : Entry) : e.marked.marked = e.marked := rfl

/-- The keys that a family sweep has already covered are passed over, all others are marked. -/
theorem get?_invalidateKeys (families : List Family) (ks : List Key) :
    (invalidateKeys families c ks).1.get? k =
      (c.get? k).map fun e =>
        if k ∈ ks ∧ families.contains k.family = false then e.marked else e := by
  induction ks generalizing c with
  | nil => simp [invalidateKeys]
  | cons k₀ ks ih =>
    unfold invalidateKeys
    cases hf : families.contains k₀.family with
    | true =>
      simp only [↓reduceIte, ih]
      congr 1
      funext e
      by_cases hk : k = k₀
      · subst hk; simp only [hf]; simp
      · simp [hk]
    | false =>
      simp only [Bool.false_eq_true, ↓reduceIte, ih, get?_invalidateKey, Option.map_map]
      congr 1
      funext e
      by_cases hk : k = k₀
      · subst hk; simp only [hf]; simp
      · simp [hk]

/-- After an event the entries that it reaches are stale, and all others are as before. -/
theorem get?_dispatch (e : Event) (id : Option String) :
    (c.dispatch e id).1.get? k =
      (c.get? k).map fun entry => if e.reaches id k then entry.marked else entry := by
  simp only [dispatch, get?_invalidateKeys, get?_invalidate, Option.map_map]
  congr 1
  funext entry
  by_cases hf : k.family ∈ e.families <;> by_cases hk : k ∈ e.keysOf id <;>
    simp [Event.reaches, hf, hk]

end CodeHealth.Cache
