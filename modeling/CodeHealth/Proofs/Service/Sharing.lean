import CodeHealth.Proofs.Service.Query
import CodeHealth.Proofs.Session.Exchange
import CodeHealth.Proofs.Text.Percent
import Mathlib

/-! Queries of long lists that send the same request. A request says everything about its query but
one thing: the direction of a list that is not sorted by any field. The key of the query keeps that
direction as well, so two queries with one request share what is kept for them just when they agree
on it. -/

namespace CodeHealth

/-! ### What a query string says -/

namespace Pairs

/-- The pairs of those fields that have a value. -/
def present (fields : List (String × Option String)) : Pairs :=
  fields.flatMap fun f => optional f.1 f.2

theorem present_append (fs gs : List (String × Option String)) :
    present (fs ++ gs) = present fs ++ present gs := List.flatMap_append

theorem present_cons (name : String) (value : Option String)
    (fs : List (String × Option String)) :
    present ((name, value) :: fs) = optional name value ++ present fs := List.flatMap_cons

theorem name_of_mem_present {fs : List (String × Option String)} {p : String × String}
    (hp : p ∈ present fs) : p.1 ∈ fs.map Prod.fst := by
  obtain ⟨⟨name, value⟩, hf, hp⟩ := List.mem_flatMap.1 hp
  cases value with
  | none => simp [optional] at hp
  | some v =>
    obtain rfl := List.mem_singleton.1 hp
    exact List.mem_map_of_mem hf

/-- A pair of the first field is not one of the others. -/
theorem present_ne_cons {fs : List (String × Option String)} {name v : String} {rest : Pairs}
    (hname : name ∉ fs.map Prod.fst) : present fs ≠ (name, v) :: rest := by
  intro h
  have hmem : (name, v) ∈ present fs := h ▸ List.mem_cons_self
  exact hname (name_of_mem_present hmem)

/-- Fields of distinct names are read off the pairs, those without a value included. -/
theorem present_inj {fs gs : List (String × Option String)}
    (hnames : fs.map Prod.fst = gs.map Prod.fst) (hnodup : (fs.map Prod.fst).Nodup) :
    present fs = present gs ↔ fs = gs := by
  refine ⟨fun h => ?_, congrArg present⟩
  induction fs generalizing gs with
  | nil => exact (List.map_eq_nil_iff.1 hnames.symm).symm
  | cons f fs ih =>
    cases gs with
    | nil => contradiction
    | cons g gs =>
      obtain ⟨name, v⟩ := f
      obtain ⟨name', w⟩ := g
      obtain ⟨rfl, hrest⟩ : name = name' ∧ fs.map Prod.fst = gs.map Prod.fst := by
        simpa using hnames
      obtain ⟨hnew, hdistinct⟩ := List.nodup_cons.1 hnodup
      rw [present_cons, present_cons] at h
      cases v with
      | none =>
        cases w with
        | none => rw [ih hrest hdistinct h]
        | some w => exact absurd h (present_ne_cons hnew)
      | some v =>
        cases w with
        | none => exact absurd h.symm (present_ne_cons (hrest ▸ hnew))
        | some w =>
          obtain ⟨hpair, h⟩ := List.cons.inj h
          rw [ih hrest hdistinct h, (Prod.mk.inj hpair).2]

end Pairs

open Pairs (present present_append present_inj)

namespace ListParams

def fields (p : ListParams) : List (String × Option String) :=
  [("page", some (toString p.page.toNat)), ("page_size", some (toString p.pageSize.toNat)),
    ("sort_by", p.sortBy), ("sort_direction", p.sortBy.map fun _ => Label.name p.direction)]

theorem pairs_eq (p : ListParams) : p.pairs = present p.fields := by
  obtain ⟨page, size, field, direction⟩ := p
  cases field <;> rfl

/-- The same page, in the usual direction where there is no field to sort by. -/
def settled (p : ListParams) : ListParams :=
  match p.sortBy with
  | some _ => p
  | none => { p with direction := .desc }

/-- A page and its settled form say the same in a query string. -/
theorem fields_inj {p p' : ListParams} : p.fields = p'.fields ↔ p.settled = p'.settled := by
  obtain ⟨page, size, field, direction⟩ := p
  obtain ⟨page', size', field', direction'⟩ := p'
  cases field <;> cases field' <;>
    simp [fields, settled, UInt32.toNat_inj, Query.name_injective.eq_iff]

theorem present_append_pairs_inj {fs gs : List (String × Option String)} {p p' : ListParams}
    (hnames : fs.map Prod.fst = gs.map Prod.fst)
    (hnodup : (fs.map Prod.fst ++ p.fields.map Prod.fst).Nodup) :
    present fs ++ p.pairs = present gs ++ p'.pairs ↔ fs = gs ∧ p.settled = p'.settled := by
  have hlength : fs.length = gs.length := by simpa using congrArg List.length hnames
  have hall : (fs ++ p.fields).map Prod.fst = (gs ++ p'.fields).map Prod.fst := by
    rw [List.map_append, List.map_append, hnames]
    rfl
  rw [pairs_eq, pairs_eq, ← present_append, ← present_append,
    present_inj hall (List.map_append ▸ hnodup), List.append_eq_append_iff_of_size_eq_left hlength,
    fields_inj]

theorem pairs_inj {p p' : ListParams} : p.pairs = p'.pairs ↔ p.settled = p'.settled := by
  have hnames : p.fields.map Prod.fst = p'.fields.map Prod.fst := rfl
  rw [pairs_eq, pairs_eq, present_inj hnames (by simp [fields]), fields_inj]

/-- The two agree on the direction, unless a field to sort by says it for one of them anyway. -/
def SameIdleDirection (p p' : ListParams) : Prop := p.sortBy = none → p.direction = p'.direction

/-- Two pages are the same if they say the same and agree on a direction that is not said. -/
theorem eq_iff_of_settled_eq {p p' : ListParams} (h : p.settled = p'.settled) :
    p = p' ↔ p.SameIdleDirection p' := by
  obtain ⟨page, size, field, direction⟩ := p
  obtain ⟨page', size', field', direction'⟩ := p'
  cases field <;> cases field' <;> simp_all [settled, SameIdleDirection]

end ListParams

namespace FindingFilters

def fields (f : FindingFilters) : List (String × Option String) :=
  [("severity", f.severity.map Label.name), ("detector", f.detector),
    ("status", f.status.map Label.name), ("category", f.category),
    ("repository_id", f.repositoryId), ("analysis_run_id", f.analysisRunId), ("search", f.search)]

theorem pairs_eq (f : FindingFilters) : f.pairs = present f.fields := by
  simp [pairs, fields, present]

theorem fields_injective : Function.Injective fields := by
  rintro ⟨a, b, c, d, e, f, g⟩ ⟨a', b', c', d', e', f', g'⟩ h
  simpa [fields, Query.mapName_injective.eq_iff] using h

/-- The filters and the page are read off the pairs of both. -/
theorem append_pairs_inj {f f' : FindingFilters} {p p' : ListParams} :
    f.pairs ++ p.pairs = f'.pairs ++ p'.pairs ↔ f = f' ∧ p.settled = p'.settled := by
  have hnames : f.fields.map Prod.fst = f'.fields.map Prod.fst := rfl
  have hnodup : (f.fields.map Prod.fst ++ p.fields.map Prod.fst).Nodup := by
    simp [fields, ListParams.fields]
  rw [f.pairs_eq, f'.pairs_eq, ListParams.present_append_pairs_inj hnames hnodup,
    fields_injective.eq_iff]

end FindingFilters

namespace FixFilters

def fields (f : FixFilters) : List (String × Option String) :=
  [("status", f.status.map Label.name), ("confidence", f.confidence.map Label.name),
    ("repository_id", f.repositoryId), ("finding_id", f.findingId), ("search", f.search)]

theorem pairs_eq (f : FixFilters) : f.pairs = present f.fields := by
  simp [pairs, fields, present]

theorem fields_injective : Function.Injective fields := by
  rintro ⟨a, b, c, d, e⟩ ⟨a', b', c', d', e'⟩ h
  simpa [fields, Query.mapName_injective.eq_iff] using h

/-- The filters and the page are read off the pairs of both. -/
theorem append_pairs_inj {f f' : FixFilters} {p p' : ListParams} :
    f.pairs ++ p.pairs = f'.pairs ++ p'.pairs ↔ f = f' ∧ p.settled = p'.settled := by
  have hnames : f.fields.map Prod.fst = f'.fields.map Prod.fst := rfl
  have hnodup : (f.fields.map Prod.fst ++ p.fields.map Prod.fst).Nodup := by
    simp [fields, ListParams.fields]
  rw [f.pairs_eq, f'.pairs_eq, ListParams.present_append_pairs_inj hnames hnodup,
    fields_injective.eq_iff]

end FixFilters

namespace AssetFilters

def fields (f : AssetFilters) : List (String × Option String) :=
  [("asset_type", f.kind.map Label.name), ("search", f.search),
    ("verified", if f.verifiedOnly then some "true" else none)]

theorem pairs_eq (f : AssetFilters) : f.pairs = present f.fields := by
  obtain ⟨kind, search, verified⟩ := f
  cases verified <;> simp [pairs, fields, present, Pairs.optional]

theorem fields_injective : Function.Injective fields := by
  rintro ⟨a, b, c⟩ ⟨a', b', c'⟩ h
  cases c <;> cases c' <;> simp_all [fields, Query.mapName_injective.eq_iff]

/-- The filters and the page are read off the pairs of both. -/
theorem append_pairs_inj {f f' : AssetFilters} {p p' : ListParams} :
    f.pairs ++ p.pairs = f'.pairs ++ p'.pairs ↔ f = f' ∧ p.settled = p'.settled := by
  have hnames : f.fields.map Prod.fst = f'.fields.map Prod.fst := rfl
  have hnodup : (f.fields.map Prod.fst ++ p.fields.map Prod.fst).Nodup := by
    simp [fields, ListParams.fields]
  rw [f.pairs_eq, f'.pairs_eq, ListParams.present_append_pairs_inj hnames hnodup,
    fields_injective.eq_iff]

end AssetFilters

/-! ### Requests of long lists -/

namespace Query

/-- The page that a query of a long list is about. -/
def params? : Query → Option ListParams
  | findings _ p => some p
  | fixes _ p => some p
  | repositories p => some p
  | runHistory _ p => some p
  | invoices p => some p
  | assets _ p => some p
  | _ => none

/-- The query of the settled page. -/
def settled : Query → Query
  | findings f p => findings f p.settled
  | fixes f p => fixes f p.settled
  | repositories p => repositories p.settled
  | runHistory r p => runHistory r p.settled
  | invoices p => invoices p.settled
  | assets f p => assets f p.settled
  | q => q

section

variable (p : ListParams)

@[simp] theorem path_findings (f : FindingFilters) : (findings f p).path = "/findings" := rfl

@[simp] theorem path_fixes (f : FixFilters) : (fixes f p).path = "/fixes" := rfl

@[simp] theorem path_repositories : (repositories p).path = "/repositories" := rfl

theorem path_runHistory (id : String) :
    (runHistory id p).path = "/repositories/" ++ Text.Percent.encode id ++ "/analyses" := rfl

@[simp] theorem path_invoices : (invoices p).path = "/billing/invoices" := rfl

@[simp] theorem path_assets (f : AssetFilters) : (assets f p).path = "/marketplace/assets" := rfl

end

theorem runHistory_path_inj {id id' : String} {p p' : ListParams} :
    (runHistory id p).path = (runHistory id' p').path ↔ id = id' := by
  rw [path_runHistory, path_runHistory, String.append_left_inj, String.append_right_inj,
    Text.Percent.encode_injective.eq_iff]

/-- The path of a history goes on below the list of repositories, and no other path does. -/
theorem runHistory_path_ne {id s : String} {p : ListParams} (hs : s ∈ ["/findings", "/fixes",
    "/repositories", "/billing/invoices", "/marketplace/assets"]) : (runHistory id p).path ≠ s := by
  have hbelow : ¬ "/repositories/".toList <+: s.toList := by
    revert s
    decide
  intro h
  refine hbelow ⟨(Text.Percent.encode id ++ "/analyses").toList, ?_⟩
  rw [← h, path_runHistory, String.append_assoc, ← String.toList_append]

/-- Each kind of long list has a path of its own. -/
theorem family_eq_of_path_eq {q r : Query} (hq : q.params?.isSome) (hr : r.params?.isSome) :
    q.path = r.path → q.key.family = r.key.family := by
  cases q <;> first | contradiction | skip
  all_goals
    cases r <;> first | contradiction | skip
  all_goals intro h
  case runHistory.findings | runHistory.fixes | runHistory.repositories | runHistory.invoices |
      runHistory.assets =>
    exact absurd h (runHistory_path_ne (by simp))
  case findings.runHistory | fixes.runHistory | repositories.runHistory | invoices.runHistory |
      assets.runHistory =>
    exact absurd h.symm (runHistory_path_ne (by simp))
  -- all other paths are fixed texts
  all_goals first | rfl | simp at h

theorem family_settled (q : Query) : q.settled.key.family = q.key.family := by
  cases q <;> rfl

theorem request_eq_iff_of_family_eq {q r : Query} (hq : q.params?.isSome)
    (hkind : q.key.family = r.key.family) :
    q.path = r.path ∧ q.pairs = r.pairs ↔ q.settled = r.settled := by
  cases q <;> first | contradiction | skip
  all_goals
    cases r <;> cases hkind
  case findings.findings => simp [pairs, settled, FindingFilters.append_pairs_inj]
  case fixes.fixes => simp [pairs, settled, FixFilters.append_pairs_inj]
  case repositories.repositories => simp [pairs, settled, ListParams.pairs_inj]
  case runHistory.runHistory => simp [runHistory_path_inj, pairs, settled, ListParams.pairs_inj]
  case invoices.invoices => simp [pairs, settled, ListParams.pairs_inj]
  case assets.assets => simp [pairs, settled, AssetFilters.append_pairs_inj]

/-- Two queries of long lists send the same request just when they are settled alike. -/
theorem request_eq_iff_settled_eq {q r : Query} (hq : q.params?.isSome) (hr : r.params?.isSome) :
    q.path = r.path ∧ q.pairs = r.pairs ↔ q.settled = r.settled := by
  by_cases hkind : q.key.family = r.key.family
  · exact request_eq_iff_of_family_eq hq hkind
  · refine iff_of_false (fun h => hkind (family_eq_of_path_eq hq hr h.1)) fun h => hkind ?_
    rw [← family_settled q, h, family_settled]

/-- Queries that are settled alike are the same if they agree on a direction that is not said. -/
theorem eq_iff_of_settled_eq {q r : Query} {p p' : ListParams} (hq : q.params? = some p)
    (hr : r.params? = some p') (h : q.settled = r.settled) :
    q = r ↔ p.SameIdleDirection p' := by
  have hkind : q.key.family = r.key.family := by rw [← family_settled q, h, family_settled]
  cases q <;> first | contradiction | skip
  all_goals
    cases r <;> cases hkind
    cases hq
    cases hr
  case findings.findings =>
    obtain ⟨rfl, hpage⟩ := findings.inj h
    simp [← ListParams.eq_iff_of_settled_eq hpage]
  case fixes.fixes =>
    obtain ⟨rfl, hpage⟩ := fixes.inj h
    simp [← ListParams.eq_iff_of_settled_eq hpage]
  case repositories.repositories => simp [← ListParams.eq_iff_of_settled_eq (repositories.inj h)]
  case runHistory.runHistory =>
    obtain ⟨rfl, hpage⟩ := runHistory.inj h
    simp [← ListParams.eq_iff_of_settled_eq hpage]
  case invoices.invoices => simp [← ListParams.eq_iff_of_settled_eq (invoices.inj h)]
  case assets.assets =>
    obtain ⟨rfl, hpage⟩ := assets.inj h
    simp [← ListParams.eq_iff_of_settled_eq hpage]

section

variable {β : Type} [Backend β] {c c' : Client} {w : World β}

/-- An answer that has just been fetched is found in the cache. -/
theorem fresh?_fetch {q : Query} {a : q.Answer} (hask : (c.ask q.call w).1 = .ok a) :
    q.handle.fresh? (q.handle.fetch c w).2.cache = some (q.shape.kept a) := by
  have hback : q.shape.ofJson (q.shape.toPlain a) = some (q.shape.kept a) := by
    obtain ⟨reply, hreply⟩ := c.outcome_ask q.call w
    exact ofJson_toPlain_of_outcome (hreply.symm.trans hask)
  have hstored := Cache.get?_storeSuccess w.cache q.key q.key (q.shape.toPlain a)
  rw [if_pos rfl] at hstored
  have hget : (q.handle.fetch c w).2.cache.get? q.handle.key =
      some ⟨some (q.shape.toPlain a), none, false,
        ((w.cache.get? q.key).map (·.fetches)).getD 0 + 1⟩ := by
    rw [Handle.cache_fetch, show c.ask q.handle.call w = c.ask q.call w from rfl, hask]
    exact hstored
  simp only [Handle.fresh?, hget, Option.bind_eq_bind, Option.bind_some]
  exact hback

end

/-- Two queries of long lists with the same request have the same key just when they agree on the
direction of a list that is not sorted. If they do, an answer that was fetched for one is served for
the other, and nothing is sent; if they do not, the same request is sent once more. -/
theorem shared_iff_same_idle_direction {β : Type} [Backend β] {q r : Query} {p p' : ListParams}
    (hq : q.params? = some p) (hr : r.params? = some p') (hpath : q.call.path = r.call.path)
    (hquery : q.call.query = r.call.query) :
    (q.key = r.key ↔ p.SameIdleDirection p') ∧
    ∀ (c c' : Client) (w : World β), c'.ready →
      let fetched := (q.handle.fetch c w).2
      let next := r.handle.read c' fetched
      (p.SameIdleDirection p' → ∀ a, (c.ask q.call w).1 = .ok a →
        next.2 = fetched ∧ HEq next.1 (ReadState.ready (q.shape.kept a))) ∧
      (¬ p.SameIdleDirection p' → w.cache.get? r.key = none →
        next.2.sent = fetched.sent ++ [c'.outgoing r.call]) := by
  have hsettled : q.settled = r.settled :=
    (request_eq_iff_settled_eq (by simp [hq]) (by simp [hr])).1 ⟨hpath, hquery⟩
  have hsame : q = r ↔ p.SameIdleDirection p' := eq_iff_of_settled_eq hq hr hsettled
  refine ⟨key_injective.eq_iff.trans hsame, ?_⟩
  intro c c' w hready fetched next
  constructor
  · intro hdirection a hask
    obtain rfl := hsame.2 hdirection
    have hnext : next = (ReadState.ready (q.shape.kept a), fetched) :=
      Handle.read_of_fresh _ _ _ hready (fresh?_fetch hask)
    rw [hnext]
    exact ⟨rfl, HEq.rfl⟩
  · intro hdirection hnone
    have hne : r.handle.key ≠ q.handle.key := fun h =>
      hdirection (hsame.1 (key_injective h.symm))
    have hfresh : r.handle.fresh? fetched.cache = none := by
      rw [Handle.fresh?, Handle.get?_fetch_of_ne _ _ _ hne, show r.handle.key = r.key from rfl,
        hnone]
      rfl
    have hnext : next = r.handle.fetch c' fetched := Handle.read_of_not_fresh _ _ _ hready hfresh
    rw [hnext, Handle.sent_fetch]
    rfl

/-- The direction of an unsorted list costs a second request, though the service is not told it. -/
theorem sent_twice_for_idle_direction :
    let client : Client := ⟨"http://localhost", none, true⟩
    let q := repositories {}
    let r := repositories { direction := .asc }
    let fetched := (q.handle.fetch client (.start Script.empty)).2
    client.outgoing q.call = client.outgoing r.call ∧
      fetched.sent = [client.outgoing q.call] ∧
      (r.handle.read client fetched).2.sent = [client.outgoing q.call, client.outgoing q.call] := by
  intro client q r fetched
  have hshared := shared_iff_same_idle_direction (β := Script) (q := q) (r := r) rfl rfl rfl rfl
  obtain ⟨-, hdiffer⟩ := hshared.2 client client (.start Script.empty) rfl
  exact ⟨rfl, rfl, hdiffer (fun h => nomatch h rfl) rfl⟩

/-- Requests that are the same do not always share a key. -/
theorem not_shared_of_idle_direction :
    ¬ ∀ q r : Query, q.params?.isSome → r.params?.isSome → q.call.path = r.call.path →
      q.call.query = r.call.query → q.key = r.key := by
  intro h
  have hkey := h (repositories {}) (repositories { direction := .asc }) rfl rfl rfl rfl
  revert hkey
  decide

end Query

end CodeHealth
