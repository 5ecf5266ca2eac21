import CodeHealth.Proofs.Cache.Entries
import Mathlib

/-! An entry tells the history of its key. Only what happened since the key was last removed
counts: the entry is there iff something was stored, its data is what the last successful fetch
brought, its error is that of the last fetch, and it is fresh iff the last fetch succeeded and
nothing has marked the key since. Fetches are counted without an upper limit. -/

namespace CodeHealth

/-- Something that satisfies `start` has happened, and all that came after it satisfies `good`. -/
def Since {α : Type*} (good start : α → Prop) (history : List α) : Prop :=
  ∃ before x after, history = before ++ x :: after ∧ start x ∧ ∀ y ∈ after, good y

section Since

variable {α : Type*} {good start : α → Prop}

theorem not_since_nil : ¬ Since good start [] := by
  rintro ⟨before, x, after, h, -⟩
  simp at h

theorem since_concat (history : List α) (x : α) :
    Since good start (history ++ [x]) ↔ start x ∨ (good x ∧ Since good start history) := by
  constructor
  · rintro ⟨before, s, after, h, hs, hgood⟩
    rcases List.eq_nil_or_concat after with rfl | ⟨after, y, rfl⟩
    · obtain ⟨-, hxs⟩ := List.append_inj' h rfl
      obtain rfl := List.singleton_inj.1 hxs
      exact .inl hs
    · have h' : history ++ [x] = (before ++ s :: after) ++ [y] := by simpa using h
      obtain ⟨rfl, hxy⟩ := List.append_inj' h' rfl
      obtain rfl := List.singleton_inj.1 hxy
      exact .inr ⟨hgood x (by simp), before, s, after, rfl, hs, fun z hz => hgood z (by simp [hz])⟩
  · rintro (hs | ⟨hx, before, s, after, rfl, hs, hgood⟩)
    · exact ⟨history, x, [], rfl, hs, by simp⟩
    · refine ⟨before, s, after ++ [x], by simp, hs, fun z hz => ?_⟩
      rcases List.mem_append.1 hz with hz | hz
      · exact hgood z hz
      · rwa [List.mem_singleton.1 hz]

/-- Looking back, the first thing that is a start or not good has to be a start. -/
theorem since_iff_find? [DecidablePred good] [DecidablePred start] (history : List α) :
    Since good start history ↔
      (history.reverse.find? fun x => start x ∨ ¬ good x).any fun x => start x := by
  induction history using List.reverseRecOn with
  | nil => simp [not_since_nil]
  | append_singleton history x ih =>
    rw [since_concat, List.reverse_concat, List.find?_cons]
    by_cases hs : start x
    · simp [hs]
    · by_cases hx : good x
      · simpa [hs, hx] using ih
      · simp [hs, hx]

instance [DecidablePred good] [DecidablePred start] (history : List α) :
    Decidable (Since good start history) :=
  decidable_of_iff _ (since_iff_find? history).symm

end Since

namespace Cache

/-- What can be done to a cache. -/
inductive Op where
  | storeSuccess (k : Key) (data : Json)
  | storeError (k : Key) (error : Fault)
  | invalidateKey (k : Key)
  | invalidateMatching (p : Key → Bool)
  | invalidateAll
  | remove (k : Key)
  | clear

namespace Op

def apply (c : Cache) : Op → Cache
  | storeSuccess k data => c.storeSuccess k data
  | storeError k error => c.storeError k error
  | invalidateKey k => (c.invalidateKey k).1
  | invalidateMatching p => c.invalidate p
  | invalidateAll => c.invalidate fun _ => true
  | remove k => c.erase k
  | clear => empty

/-- Whether the entry of `k` is thrown away. -/
def drops (k : Key) : Op → Bool
  | remove k' => k = k'
  | clear => true
  | _ => false

/-- The outcome of a fetch that is stored under `k`. -/
def stored? (k : Key) : Op → Option (Except Fault Json)
  | storeSuccess k' data => if k = k' then some (.ok data) else none
  | storeError k' error => if k = k' then some (.error error) else none
  | _ => none

/-- Whether the entry of `k` is marked stale. -/
def marks (k : Key) : Op → Bool
  | invalidateKey k' => k = k'
  | invalidateMatching p => p k
  | invalidateAll => true
  | _ => false

end Op

/-- The cache after the given operations, from an empty one on. -/
def replay (ops : List Op) : Cache := ops.foldl Op.apply empty

/-- What has happened since `k` was last removed. -/
def lifetime (k : Key) (ops : List Op) : List Op := ops.rtakeWhile fun o => !o.drops k

/-- The outcomes stored under `k`, in order. -/
def stores (k : Key) (ops : List Op) : List (Except Fault Json) := ops.filterMap (Op.stored? k)

/-- The last fetch of `k` has succeeded and nothing has marked `k` since. -/
def FreshBy (k : Key) : List Op → Prop :=
  Since (fun o => o.stored? k = none ∧ o.marks k = false)
    (fun o => ∃ data, o.stored? k = some (.ok data))

/-- The entry `e` tells what the operations `ops` have done to `k`. -/
structure Tells (k : Key) (ops : List Op) (e : Entry) : Prop where
  data : e.data = ((stores k ops).filterMap Except.toOption).getLast?
  error : ∀ f, e.error = some f ↔ (stores k ops).getLast? = some (.error f)
  fetches : e.fetches = (stores k ops).length
  stale : e.stale = false ↔ FreshBy k ops

/-- The same of an entry that may be missing. -/
def Reflects (k : Key) (ops : List Op) : Option Entry → Prop
  | none => stores k ops = []
  | some e => stores k ops ≠ [] ∧ Tells k ops e

/-! ### One operation -/

theorem get?_apply (c : Cache) (o : Op) (k : Key) :
    (o.apply c).get? k =
      if o.drops k then none
      else match o.stored? k with
        | some (.ok data) =>
          some ⟨some data, none, false, ((c.get? k).map (·.fetches)).getD 0 + 1⟩
        | some (.error f) => some (failedEntry (c.get? k) f)
        | none => (c.get? k).map fun e => if o.marks k then e.marked else e := by
  cases o with
  | storeSuccess k' data =>
    by_cases h : k = k' <;> simp [Op.apply, Op.drops, Op.stored?, Op.marks, get?_storeSuccess, h]
  | storeError k' f =>
    by_cases h : k = k' <;> simp [Op.apply, Op.drops, Op.stored?, Op.marks, get?_storeError, h]
  | invalidateKey k' =>
    simp [Op.apply, Op.drops, Op.stored?, Op.marks, get?_invalidateKey]
  | invalidateMatching p => exact get?_invalidate c k p
  | invalidateAll => exact get?_invalidate c k _
  | remove k' => by_cases h : k = k' <;> simp [Op.apply, Op.drops, Op.stored?, Op.marks, h]
  | clear => simp [Op.apply, Op.drops]

theorem stores_concat (k : Key) (ops : List Op) (o : Op) :
    stores k (ops ++ [o]) = stores k ops ++ (o.stored? k).toList := by
  cases h : o.stored? k <;> simp [stores, h]

theorem lifetime_concat (k : Key) (ops : List Op) (o : Op) :
    lifetime k (ops ++ [o]) = if o.drops k then [] else lifetime k ops ++ [o] := by
  rw [lifetime, List.rtakeWhile_concat]
  cases o.drops k <;> simp [lifetime]

theorem freshBy_concat (k : Key) (ops : List Op) (o : Op) :
    FreshBy k (ops ++ [o]) ↔
      (∃ data, o.stored? k = some (.ok data)) ∨
        ((o.stored? k = none ∧ o.marks k = false) ∧ FreshBy k ops) :=
  since_concat ops o

section Step

variable {k : Key} {ops : List Op} {old : Option Entry} {o : Op}

theorem reflects_success {data : Json} (ho : o.stored? k = some (.ok data))
    (h : Reflects k ops old) :
    Reflects k (ops ++ [o]) (some ⟨some data, none, false, (old.map (·.fetches)).getD 0 + 1⟩) := by
  have hstores : stores k (ops ++ [o]) = stores k ops ++ [.ok data] := by simp [stores_concat, ho]
  refine ⟨by simp [hstores], ?_, ?_, ?_, ?_⟩
  · simp [hstores, Except.toOption]
  · simp [hstores]
  · cases old with
    | none => simp [hstores, show stores k ops = [] from h]
    | some e => simp [hstores, h.2.fetches]
  · simp [freshBy_concat, ho]

theorem reflects_failure {f : Fault} (ho : o.stored? k = some (.error f))
    (h : Reflects k ops old) : Reflects k (ops ++ [o]) (some (failedEntry old f)) := by
  have hstores : stores k (ops ++ [o]) = stores k ops ++ [.error f] := by simp [stores_concat, ho]
  refine ⟨by simp [hstores], ?_, ?_, ?_, ?_⟩
  · cases old with
    | none => simp [failedEntry, hstores, show stores k ops = [] from h, Except.toOption]
    | some e => simp [failedEntry, hstores, h.2.data, Except.toOption]
  · cases old <;> simp [failedEntry, hstores]
  · cases old with
    | none => simp [failedEntry, hstores, show stores k ops = [] from h]
    | some e => simp [failedEntry, hstores, h.2.fetches]
  · cases old <;> simp [failedEntry, freshBy_concat, ho]

/-- Where nothing is stored, the entry stays but for the mark. -/
theorem reflects_mark (ho : o.stored? k = none) (h : Reflects k ops old) :
    Reflects k (ops ++ [o]) (old.map fun e => if o.marks k then e.marked else e) := by
  have hstores : stores k (ops ++ [o]) = stores k ops := by simp [stores_concat, ho]
  cases old with
  | none => exact hstores.trans h
  | some e =>
    obtain ⟨hne, htells⟩ := h
    cases hm : o.marks k with
    | true =>
      refine ⟨hstores ▸ hne, ?_, ?_, ?_, ?_⟩
      · simpa [Entry.marked, hstores] using htells.data
      · simpa [Entry.marked, hstores] using htells.error
      · simpa [Entry.marked, hstores] using htells.fetches
      · simp [Entry.marked, freshBy_concat, ho, hm]
    | false =>
      refine ⟨hstores ▸ hne, ?_, ?_, ?_, ?_⟩
      · simpa [hstores] using htells.data
      · simpa [hstores] using htells.error
      · simpa [hstores] using htells.fetches
      · simpa [freshBy_concat, ho, hm] using htells.stale

end Step

/-! ### Whole histories -/

theorem reflects_replay (ops : List Op) (k : Key) :
    Reflects k (lifetime k ops) ((replay ops).get? k) := by
  induction ops using List.reverseRecOn with
  | nil => rfl
  | append_singleton ops o ih =>
    rw [replay, List.foldl_append, List.foldl_cons, List.foldl_nil, ← replay, get?_apply,
      lifetime_concat]
    by_cases hd : o.drops k = true
    · rw [if_pos hd, if_pos hd]
      rfl
    · rw [if_neg hd, if_neg hd]
      split
      next data ho => exact reflects_success ho ih
      next f ho => exact reflects_failure ho ih
      next ho => exact reflects_mark ho ih

section Coherence

variable {k : Key} {ops : List Op} {e : Entry}

theorem getLast?_stores_of_freshBy (h : FreshBy k ops) :
    ∃ data, (stores k ops).getLast? = some (.ok data) := by
  obtain ⟨before, o, after, rfl, ⟨data, ho⟩, hafter⟩ := h
  have hnil : after.filterMap (Op.stored? k) = [] :=
    List.filterMap_eq_nil_iff.2 fun o' ho' => (hafter o' ho').1
  exact ⟨data, by simp [stores, ho, hnil]⟩

/-- An entry with an error is stale: its last fetch has failed. -/
theorem Tells.stale_of_error (h : Tells k ops e) (herr : e.error.isSome) : e.stale = true := by
  obtain ⟨f, hf⟩ := Option.isSome_iff_exists.1 herr
  by_contra hstale
  obtain ⟨data, hdata⟩ := getLast?_stores_of_freshBy (h.stale.1 (by simpa using hstale))
  have hlast := (h.error f).1 hf
  rw [hdata] at hlast
  cases hlast

/-- An entry without data has an error: nothing but failures has been stored. -/
theorem Tells.error_of_no_data (h : Tells k ops e) (hne : stores k ops ≠ [])
    (hdata : e.data = none) : e.error.isSome := by
  have hnone := h.data.symm.trans hdata
  rw [List.getLast?_eq_none_iff, List.filterMap_eq_nil_iff] at hnone
  have hlast := List.getLast?_eq_getLast_of_ne_nil hne
  cases hout : (stores k ops).getLast hne with
  | ok data => simpa [hout, Except.toOption] using hnone _ (List.getLast_mem hne)
  | error f => rw [(h.error f).2 (hlast.trans (by rw [hout])), Option.isSome_some]

end Coherence

/-- After any operations, the entry of a key tells what has happened to the key since it was last
removed. -/
theorem entry_tells_history (ops : List Op) (k : Key) :
    (((replay ops).get? k).isSome ↔ stores k (lifetime k ops) ≠ []) ∧
    (∀ e, (replay ops).get? k = some e →
      Tells k (lifetime k ops) e ∧
      (e.error.isSome → e.stale = true) ∧ (e.data = none → e.error.isSome)) ∧
    ((replay ops).isFresh k ↔ ∃ e, (replay ops).get? k = some e ∧ e.stale = false) := by
  have href := reflects_replay ops k
  cases hget : (replay ops).get? k with
  | none =>
    rw [hget] at href
    have hnil : stores k (lifetime k ops) = [] := href
    exact ⟨by simp [hnil], by simp, by simp [isFresh, hget]⟩
  | some e =>
    rw [hget] at href
    obtain ⟨hne, htells⟩ := href
    have herr := htells.stale_of_error
    have hdata := htells.error_of_no_data hne
    refine ⟨by simpa using hne, ?_, ?_⟩
    · rintro _ ⟨⟩
      exact ⟨htells, herr, hdata⟩
    · have hfresh : (replay ops).isFresh k = e.isFresh := by simp [isFresh, hget]
      rw [hfresh]
      constructor
      · intro h
        refine ⟨e, rfl, ?_⟩
        simp only [Entry.isFresh, Bool.and_eq_true, Bool.not_eq_true'] at h
        exact h.1.1
      · rintro ⟨_, ⟨⟩, hstale⟩
        have hnoerr : e.error = none := by
          by_contra h
          exact absurd (herr (Option.isSome_iff_ne_none.2 h)) (by simp [hstale])
        have hsome : e.data.isSome := by
          by_contra h
          simpa [hnoerr] using hdata (by simpa using h)
        simp [Entry.isFresh, hstale, hnoerr, hsome]

end Cache

end CodeHealth
