import CodeHealth.Cache.Key
import CodeHealth.Failure.Fault

/-! The cache: at most one entry per key. An entry keeps the last answer through later failures and
invalidations; it is fresh as long as neither has happened. -/
namespace CodeHealth

/-- What is known under a key. The time at which it was last updated is left out: it is kept, but
nothing is decided by it. -/
structure Entry where
  data : Option Json
  error : Option Fault
  stale : Bool
  /-- How many fetches have come to an end. -/
  fetches : Nat

namespace Entry

def isFresh (e : Entry) : Bool := !e.stale && e.error.isNone && e.data.isSome

def marked (e : Entry) : Entry := { e with stale := true }

end Entry

structure Cache where
  entries : List (Key × Entry)
  nodup : (entries.map Prod.fst).Nodup

namespace Cache

def empty : Cache := ⟨[], List.nodup_nil⟩

def get? (c : Cache) (k : Key) : Option Entry := c.entries.lookup k

def isFresh (c : Cache) (k : Key) : Bool := (c.get? k).any Entry.isFresh

def isStale (c : Cache) (k : Key) : Bool := (c.get? k).any (·.stale)

def size (c : Cache) : Nat := c.entries.length

theorem map_fst_map (f : Key → Entry → Entry) (es : List (Key × Entry)) :
    (es.map fun p => (p.1, f p.1 p.2)).map Prod.fst = es.map Prod.fst := by
  simp [Function.comp_def]

/-- The cache with every entry changed under its key. -/
def mapEntries (c : Cache) (f : Key → Entry → Entry) : Cache :=
  ⟨c.entries.map fun p => (p.1, f p.1 p.2), by rw [map_fst_map]; exact c.nodup⟩

/-- The cache with `e` as the entry of `k`. -/
def put (c : Cache) (k : Key) (e : Entry) : Cache :=
  if h : k ∈ c.entries.map Prod.fst then c.mapEntries fun k' e' => if k' = k then e else e'
  else ⟨c.entries ++ [(k, e)], by
    rw [List.map_append, List.nodup_append]
    exact ⟨c.nodup, by simp, by rintro a ha b hb rfl; simp_all⟩⟩

def erase (c : Cache) (k : Key) : Cache :=
  ⟨c.entries.filter (·.1 ≠ k), c.nodup.sublist (List.filter_sublist.map Prod.fst)⟩

def storeSuccess (c : Cache) (k : Key) (data : Json) : Cache :=
  c.put k ⟨some data, none, false, ((c.get? k).map (·.fetches)).getD 0 + 1⟩

/-- A failed fetch keeps the last answer and leaves the entry stale, so that the next read tries
again. -/
def storeError (c : Cache) (k : Key) (error : Fault) : Cache :=
  match c.get? k with
  | some e => c.put k { e with error := some error, stale := true, fetches := e.fetches + 1 }
  | none => c.put k ⟨none, some error, true, 1⟩

/-- Marks the entries stale whose keys satisfy `p`. -/
def invalidate (c : Cache) (p : Key → Bool) : Cache :=
  c.mapEntries fun k e => if p k then e.marked else e

def countKeys (c : Cache) (p : Key → Bool) : Nat := c.entries.countP fun e => p e.1

def contains (c : Cache) (k : Key) : Bool := (c.get? k).isSome

/-- All keys in ascending order. -/
def keys (c : Cache) : List Key := Key.sort (c.entries.map Prod.fst)

def keysIn (c : Cache) (f : Family) : List Key := c.keys.filter (·.family = f)

def name : String := "query-cache"

end Cache

end CodeHealth
