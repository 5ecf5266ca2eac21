import CodeHealth.Proofs.Session.Confirmation
import Mathlib

/-! What the removal of a repository leaves fresh. Answers of many kinds can show data of a
repository: lists and sums of findings and fixes, single ones, repositories, and the history of its
runs. The removal makes all of them old but for single findings, single fixes and the history. -/

namespace CodeHealth

/-- Families whose answers can show data of any repository. -/
def Family.showsRepositories : Family → Bool
  | .findings | .finding | .findingsSummary | .findingsByDetector => true
  | .fixes | .fix | .fixStats => true
  | .analyticsSummary | .analyticsTrends | .healthScore | .repositories | .repository => true
  | _ => false

/-- The answer under `k` can show data of the repository: it is of such a family, or a page of the
history of that repository. -/
def Key.ShowsRepository (id : String) (k : Key) : Prop :=
  k.family.showsRepositories ∨ ∃ parts, k = ⟨.analysisHistory, .text id :: parts⟩

/-- Families that the removal of a repository passes over. -/
def Family.outlastsRemoval : Family → Bool
  | .finding | .fix | .analysisHistory => true
  | _ => false

theorem Event.reaches_repositoryRemoved {id : String} {k : Key} (hk : k.ShowsRepository id) :
    Event.repositoryRemoved.reaches (some id) k = !k.family.outlastsRemoval := by
  obtain ⟨family, parts⟩ := k
  rcases hk with hfamily | ⟨parts', hhistory⟩
  · cases family <;> first | contradiction | rfl
  · cases hhistory
    rfl

section

variable {β : Type} [Backend β] {c : Client} {w w' : World β} {id : String} {a : Unit}

theorem Change.cache_of_removed (h : (Change.remove id).mutation.run c w = (.ok a, w')) :
    w'.cache = (w.cache.dispatch .repositoryRemoved (some id)).1 := by
  have hall := (Change.remove id).allOrNothing_run c w
  rw [h] at hall
  exact hall.2.2

/-- The entry of an answer that can show data of the removed repository is marked, or is of one of
the three families and is left alone. -/
theorem Change.get?_of_removed (h : (Change.remove id).mutation.run c w = (.ok a, w')) {k : Key}
    (hk : k.ShowsRepository id) :
    w'.cache.get? k =
      if k.family.outlastsRemoval then w.cache.get? k else (w.cache.get? k).map Entry.marked := by
  rw [Change.cache_of_removed h, Cache.get?_dispatch, Event.reaches_repositoryRemoved hk]
  cases k.family.outlastsRemoval with
  | true => simp
  | false => simp

/-- What an answer is served from after the removal. -/
theorem Change.fresh?_of_removed (h : (Change.remove id).mutation.run c w = (.ok a, w'))
    {q : Query} (hq : q.key.ShowsRepository id) : q.handle.fresh? w'.cache =
      if q.key.family.outlastsRemoval then q.handle.fresh? w.cache else none := by
  have hkey : q.handle.key = q.key := rfl
  have hget := Change.get?_of_removed h hq
  simp only [Handle.fresh?, hkey, hget]
  cases q.key.family.outlastsRemoval with
  | true => rfl
  | false => cases w.cache.get? q.key <;> rfl

/-- Once a repository has been removed, an answer that can show its data is fresh iff it was so
before and is a single finding, a single fix or a page of the history of its runs. The next read of
such an answer is served from the cache, and the next read of any other goes to the service. -/
theorem fresh_of_removed_iff (h : (Change.remove id).mutation.run c w = (.ok a, w')) :
    (∀ k : Key, k.ShowsRepository id →
      (w'.cache.isFresh k ↔ w.cache.isFresh k ∧ k.family.outlastsRemoval)) ∧
    ∀ (q : Query) (reader : Client), q.key.ShowsRepository id → reader.ready →
      (q.handle.read reader w').2.sent =
        if q.key.family.outlastsRemoval ∧ (q.handle.fresh? w.cache).isSome then w'.sent
        else w'.sent ++ [reader.outgoing q.call] := by
  constructor
  · intro k hk
    rw [Cache.isFresh, Cache.isFresh, Change.get?_of_removed h hk]
    by_cases houtlasts : k.family.outlastsRemoval
    · simp [houtlasts]
    · cases w.cache.get? k <;> simp [houtlasts, Entry.isFresh, Entry.marked]
  · intro q reader hq hready
    rw [Handle.sent_read _ _ _ hready, Change.fresh?_of_removed h hq]
    by_cases houtlasts : q.key.family.outlastsRemoval
    · simp [houtlasts, Query.handle]
    · simp [houtlasts, Query.handle]

end

/-- A service with an empty history of the runs of repository 7, which it lets go. -/
def Script.withHistory : Script :=
  (Script.empty.onRaw .get "/api/v1/repositories/7/analyses" 200 "\x7b\"items\":[]\x7d").onRaw
    .delete "/api/v1/repositories/7" 204 ""

/-- After a removal the history is served from the cache, and the list of repositories is asked
for again. -/
theorem sent_of_removed_history :
    let client : Client := ⟨"http://localhost", none, true⟩
    let history := Query.runHistory "7" {}
    let before := (history.handle.read client (.start Script.withHistory)).2
    let (result, after) := (Change.remove "7").mutation.run client before
    result = .ok () ∧ after.cache.isFresh history.key ∧
      (history.handle.read client after).2.sent = after.sent ∧
      ((Query.repositories {}).handle.read client after).2.sent =
        after.sent ++ [client.outgoing (Query.repositories {}).call] := by
  intro client history before
  have hfresh : before.cache.isFresh history.key ∧ (history.handle.fresh? before.cache).isSome := by
    decide +kernel
  have hremoved : ((Change.remove "7").mutation.run client before).1 = .ok () := by
    decide +kernel
  have hrun : (Change.remove "7").mutation.run client before =
      (.ok (), ((Change.remove "7").mutation.run client before).2) := Prod.ext hremoved rfl
  have hhistory : history.key.ShowsRepository "7" := .inr ⟨_, rfl⟩
  obtain ⟨hkeys, hreads⟩ := fresh_of_removed_iff hrun
  refine ⟨hremoved, (hkeys history.key hhistory).2 ⟨hfresh.1, rfl⟩, ?_, ?_⟩
  · exact (hreads history client hhistory rfl).trans (if_pos ⟨rfl, hfresh.2⟩)
  · have hgone : ¬ (Query.repositories {}).key.family.outlastsRemoval := Bool.false_ne_true
    exact (hreads (.repositories {}) client (.inl rfl) rfl).trans (if_neg fun h => hgone h.1)

/-- Not all that shows data of a repository is old once it has been removed. -/
theorem fresh_history_of_removed :
    ¬ ∀ (c : Client) (q : Query) (id : String) (k : Key),
      let before := (q.handle.read c (.start Script.withHistory)).2
      let (result, after) := (Change.remove id).mutation.run c before
      result = .ok () → k.ShowsRepository id → after.cache.isFresh k = false := by
  intro h
  have hstale := h ⟨"http://localhost", none, true⟩ (.runHistory "7" {}) "7"
    (Query.runHistory "7" {}).key (by decide +kernel) (.inr ⟨_, rfl⟩)
  revert hstale
  decide +kernel

end CodeHealth
