import CodeHealth.Proofs.Json.Kept
import CodeHealth.Proofs.Text.Percent
import CodeHealth.Service.Interface
import Mathlib

/-! Addresses: what is written into the query and the path of a request can be read off them again.
Main statements: a query string that is not empty is split and decoded into the pairs that it was
written from, and a method and a path say which function has been called with which id, except for
three ids that are spelled like a function of their own. -/

namespace CodeHealth

open Text.Percent (Coded coded_encode decode decode_encode encode encode_injective not_mem_encode)

/-! ### Query strings -/

namespace Pairs

/-- A pair as it is written. -/
def coded (p : String × String) : List Char := (encode p.1).toList ++ '=' :: (encode p.2).toList

/-- The pair that a stretch of a query string stands for. -/
def parsePair (cs : List Char) : Option (String × String) :=
  match cs.splitOn '=' with
  | [name, value] => do some (← decode name, ← decode value)
  | _ => none

/-- The pairs that a query string stands for. -/
def parse (s : String) : Option Pairs := (s.toList.splitOn '&').mapM parsePair

theorem toList_queryString (ps : Pairs) :
    ps.queryString.toList = ['&'].intercalate (ps.map coded) := by
  rw [queryString, String.toList_intercalate, List.map_map]
  congr 1
  refine List.map_congr_left fun p _ => ?_
  rw [Function.comp_apply, String.toList_append, String.toList_append, List.append_assoc, coded]
  rfl

theorem coded_coded (p : String × String) : Coded ['=', '&'] (coded p) :=
  (coded_encode _ p.1).append (.mark (by simp) (coded_encode _ p.2))

theorem not_mem_coded (p : String × String) : '&' ∉ coded p := by
  have hname : '&' ∉ (encode p.1).toList := not_mem_encode (by decide) (by decide) p.1
  have hvalue : '&' ∉ (encode p.2).toList := not_mem_encode (by decide) (by decide) p.2
  simp [coded, hname, hvalue]

theorem parsePair_coded (p : String × String) : parsePair (coded p) = some p := by
  have hparts : coded p = ['='].intercalate [(encode p.1).toList, (encode p.2).toList] := by
    simp [coded]
  have hsplit : (coded p).splitOn '=' = [(encode p.1).toList, (encode p.2).toList] := by
    rw [hparts]
    refine List.splitOn_intercalate '=' ?_ (List.cons_ne_nil _ _)
    rintro cs hcs
    rcases List.mem_pair.1 hcs with rfl | rfl
    · exact not_mem_encode (by decide) (by decide) p.1
    · exact not_mem_encode (by decide) (by decide) p.2
  rw [parsePair, hsplit]
  simp [decode_encode]

theorem parse_queryString {ps : Pairs} (h : ps ≠ []) : parse ps.queryString = some ps := by
  have hsplit : ps.queryString.toList.splitOn '&' = ps.map coded := by
    rw [toList_queryString]
    refine List.splitOn_intercalate '&' ?_ (by simpa using h)
    rw [List.forall_mem_map]
    exact fun p _ => not_mem_coded p
  rw [parse, hsplit, Shape.mapM_map_of_forall fun p _ => parsePair_coded p, List.map_id']

/-- A query string has no other characters than unreserved ones, those of escapes and the two
separators. The pairs of one that is not empty are read off it in their order, so it belongs to no
other pairs. -/
theorem queryString_decodes (ps : Pairs) :
    Coded ['=', '&'] ps.queryString.toList ∧
    (ps ≠ [] → parse ps.queryString = some ps) ∧
    ∀ qs : Pairs, ps ≠ [] → qs ≠ [] → ps ≠ qs → ps.queryString ≠ qs.queryString := by
  refine ⟨?_, parse_queryString, ?_⟩
  · rw [toList_queryString]
    refine Coded.intercalate (by simp) ?_
    rw [List.forall_mem_map]
    exact fun p _ => coded_coded p
  · intro qs hps hqs hne heq
    have hsame : some ps = some qs := by rw [← parse_queryString hps, heq, parse_queryString hqs]
    exact hne (Option.some.inj hsame)

/-- Separators, an escape, blanks and characters beyond ASCII in names and values, one pair that is
empty, and one that is there twice. -/
theorem awkward_pairs_decode :
    let ps : Pairs := [("", ""), ("a&b=c", "%2B +#\n"), ("é", "😀"), ("", "")]
    ps ≠ [] ∧ ps.queryString = "=&a%26b%3Dc=%252B%20%2B%23%0A&%C3%A9=%F0%9F%98%80&=" ∧
      parse ps.queryString = some ps ∧ ps.queryString ≠ queryString [("a&b", "c")] := by
  intro ps
  obtain ⟨-, hparse, hdistinct⟩ := queryString_decodes ps
  have hps : ps ≠ [] := List.cons_ne_nil _ _
  exact ⟨hps, by decide +kernel, hparse hps, hdistinct _ hps (List.cons_ne_nil _ _) (by decide)⟩

end Pairs

/-! ### Paths -/

/-- The functions of the interface. Both ways to decide on several fixes are one. -/
inductive Endpoint where
  | findings
  | finding
  | findingsSummary
  | findingsByDetector
  | fixes
  | fix
  | fixStats
  | fixComments
  | dashboard
  | trends
  | healthScore
  | repositories
  | repository
  | runStatus
  | runHistory
  | subscription
  | usage
  | invoices
  | assets
  | asset
  | installedAssets
  | triage
  | triageAll
  | approve
  | reject
  | apply
  | preview
  | batch
  | comment
  | checkout
  | portal
  | connect
  | remove
  | analyze
  | install
  | uninstall
  deriving DecidableEq

/-- The stretches of a path between its slashes. -/
def segments (path : String) : List (List Char) := path.toList.splitOn '/'

theorem splitOn_slash (cs ds : List Char) :
    (cs ++ '/' :: ds).splitOn '/' = cs.splitOn '/' ++ ds.splitOn '/' :=
  List.splitOnP_append_cons cs ds rfl

theorem splitOn_encode (s : String) : (encode s).toList.splitOn '/' = [(encode s).toList] :=
  List.splitOn_eq_singleton (not_mem_encode (by decide) (by decide) s)

/-- A path that begins with a slash is appended segment by segment. -/
theorem segments_append {s path : String} (hpath : path.toList.head? = some '/') :
    segments (s ++ path) = segments s ++ (segments path).tail := by
  obtain ⟨cs, hcs⟩ := List.head?_eq_some_iff.1 hpath
  have hfirst : ('/' :: cs).splitOn '/' = [] :: cs.splitOn '/' := splitOn_slash [] cs
  rw [segments, segments, segments, String.toList_append, hcs, splitOn_slash, hfirst,
    List.tail_cons]

/-- The path of a function below the prefix of the interface, with or without a place for an id. -/
inductive Template where
  | whole (path : String) (opens : path.toList.head? = some '/' := by decide)
  | upTo (front : String) (opens : front.toList.head? = some '/' := by decide)
    (closes : front.toList.getLast? = some '/' := by decide)
  | around (front back : String) (opens : front.toList.head? = some '/' := by decide)
    (closes : front.toList.getLast? = some '/' := by decide)
    (resumes : back.toList.head? = some '/' := by decide)

namespace Template

def fill (id : Option String) : Template → String
  | whole path _ => path
  | upTo front _ _ => front ++ encode (id.getD "")
  | around front back _ _ _ => front ++ encode (id.getD "") ++ back

def hasPlace : Template → Bool
  | whole _ _ => false
  | _ => true

/-- The segments before the place of the id. -/
def before : Template → List (List Char)
  | whole path _ => segments path
  | upTo front _ _ => (segments front).dropLast
  | around front _ _ _ _ => (segments front).dropLast

/-- The segments after the place of the id. -/
def after : Template → List (List Char)
  | around _ back _ _ _ => (segments back).tail
  | _ => []

theorem head?_fill (t : Template) (id : Option String) : (t.fill id).toList.head? = some '/' := by
  cases t with
  | whole path opens => exact opens
  | upTo front opens _ => simp [fill, opens]
  | around front back opens _ _ => simp [fill, opens]

/-- An id can be read off the path. -/
theorem fill_inj {t : Template} (ht : t.hasPlace) {i j : String} :
    t.fill (some i) = t.fill (some j) ↔ i = j := by
  cases t with
  | whole path _ => contradiction
  | upTo front _ _ =>
    simp only [fill, Option.getD_some, String.append_right_inj, encode_injective.eq_iff]
  | around front back _ _ _ =>
    simp only [fill, Option.getD_some, String.append_left_inj, String.append_right_inj,
      encode_injective.eq_iff]

/-- However an id is spelled, it fills just one segment. -/
theorem segments_fill (t : Template) (id : Option String) : segments (t.fill id) =
    t.before ++ (if t.hasPlace then [(encode (id.getD "")).toList] else []) ++ t.after := by
  cases t with
  | whole path _ => simp [fill, hasPlace, before, after]
  | upTo front _ closes =>
    obtain ⟨cs, hcs⟩ := List.getLast?_eq_some_iff.1 closes
    simp [fill, hasPlace, before, after, segments, hcs, splitOn_slash, splitOn_encode]
  | around front back _ closes resumes =>
    obtain ⟨cs, hcs⟩ := List.getLast?_eq_some_iff.1 closes
    obtain ⟨ds, hds⟩ := List.head?_eq_some_iff.1 resumes
    have hfirst : ('/' :: ds).splitOn '/' = [] :: ds.splitOn '/' := splitOn_slash [] ds
    simp [fill, hasPlace, before, after, segments, hcs, hds, splitOn_slash, hfirst, splitOn_encode]

theorem before_ne_nil (t : Template) : t.before ≠ [] := by
  cases t with
  | whole path _ => exact List.splitOn_ne_nil _ _
  | upTo front _ closes =>
    obtain ⟨cs, hcs⟩ := List.getLast?_eq_some_iff.1 closes
    simp [before, segments, hcs, splitOn_slash]
  | around front back _ closes _ =>
    obtain ⟨cs, hcs⟩ := List.getLast?_eq_some_iff.1 closes
    simp [before, segments, hcs, splitOn_slash]

/-- The fixed segments, and none for the place of the id. -/
def slots (t : Template) : List (Option (List Char)) :=
  t.before.map some ++ (if t.hasPlace then [none] else []) ++ t.after.map some

/-- The two could be filled alike. -/
def meets (t u : Template) : Bool :=
  t.slots.length == u.slots.length &&
    (t.slots.zip u.slots).all fun p => p.1.isNone || p.2.isNone || p.1 == p.2

theorem segments_fill_eq_map (t : Template) (id : Option String) :
    segments (t.fill id) = t.slots.map (·.getD (encode (id.getD "")).toList) := by
  rw [segments_fill, slots]
  cases t.hasPlace <;> simp [Function.comp_def]

theorem meets_of_fill_eq {t u : Template} {i j : Option String} (h : t.fill i = u.fill j) :
    t.meets u := by
  have hslots := congrArg segments h
  rw [segments_fill_eq_map, segments_fill_eq_map] at hslots
  have hlength : t.slots.length = u.slots.length := by simpa using congrArg List.length hslots
  rw [meets, Bool.and_eq_true, beq_iff_eq, List.all_eq_true]
  -- Where neither has a place for an id, both have the same segment, since the filled paths do.
  refine ⟨hlength, fun p hp => ?_⟩
  obtain ⟨n, hn⟩ := List.mem_iff_getElem?.1 hp
  obtain ⟨ht, hu⟩ := List.getElem?_zip_eq_some.1 hn
  have hsame := congrArg (·[n]?) hslots
  obtain ⟨x, y⟩ := p
  simp only [List.getElem?_map, ht, hu, Option.map_some, Option.some.injEq] at hsame
  cases x <;> cases y <;> simp_all

end Template

namespace Endpoint

def method : Endpoint → Method
  | triage => .patch
  | triageAll | approve | reject | apply | preview | batch | comment | checkout | portal | connect
  | analyze | install => .post
  | remove | uninstall => .delete
  | _ => .get

open Template in
def template : Endpoint → Template
  | findings => whole "/findings"
  | finding => upTo "/findings/"
  | findingsSummary => whole "/findings/summary"
  | findingsByDetector => whole "/findings/by-detector"
  | fixes => whole "/fixes"
  | fix => upTo "/fixes/"
  | fixStats => whole "/fixes/stats"
  | fixComments => around "/fixes/" "/comments"
  | dashboard => whole "/analytics/summary"
  | trends => whole "/analytics/trends"
  | healthScore => whole "/analytics/health-score"
  | repositories => whole "/repositories"
  | repository => upTo "/repositories/"
  | runStatus => around "/analysis/" "/status"
  | runHistory => around "/repositories/" "/analyses"
  | subscription => whole "/billing/subscription"
  | usage => whole "/billing/usage"
  | invoices => whole "/billing/invoices"
  | assets => whole "/marketplace/assets"
  | asset => upTo "/marketplace/assets/"
  | installedAssets => whole "/marketplace/installed"
  | triage => around "/findings/" "/status"
  | triageAll => whole "/findings/batch-status"
  | approve => around "/fixes/" "/approve"
  | reject => around "/fixes/" "/reject"
  | apply => around "/fixes/" "/apply"
  | preview => around "/fixes/" "/preview"
  | batch => whole "/fixes/batch"
  | comment => around "/fixes/" "/comments"
  | checkout => whole "/billing/checkout"
  | portal => whole "/billing/portal"
  | connect => whole "/repositories"
  | remove => upTo "/repositories/"
  | analyze => around "/repositories/" "/analyze"
  | install => around "/marketplace/assets/" "/install"
  | uninstall => around "/marketplace/assets/" "/install"

end Endpoint

namespace Asking

/-- The function that is called, whatever its arguments. -/
def endpoint : Asking → Endpoint
  | query (.findings ..) => .findings
  | query (.finding _) => .finding
  | query (.findingsSummary _) => .findingsSummary
  | query (.findingsByDetector ..) => .findingsByDetector
  | query (.fixes ..) => .fixes
  | query (.fix _) => .fix
  | query (.fixStats _) => .fixStats
  | query (.fixComments _) => .fixComments
  | query (.dashboard _) => .dashboard
  | query (.trends ..) => .trends
  | query (.healthScore _) => .healthScore
  | query (.repositories _) => .repositories
  | query (.repository _) => .repository
  | query (.runStatus _) => .runStatus
  | query (.runHistory ..) => .runHistory
  | query .subscription => .subscription
  | query .usage => .usage
  | query (.invoices _) => .invoices
  | query (.assets ..) => .assets
  | query (.asset _) => .asset
  | query .installedAssets => .installedAssets
  | change (.triage ..) => .triage
  | change (.triageAll ..) => .triageAll
  | change (.approve _) => .approve
  | change (.reject ..) => .reject
  | change (.apply _) => .apply
  | change (.preview _) => .preview
  | change (.approveAll _) => .batch
  | change (.rejectAll ..) => .batch
  | change (.comment ..) => .comment
  | change (.checkout ..) => .checkout
  | change .portal => .portal
  | change (.connect _) => .connect
  | change (.remove _) => .remove
  | change (.analyze _) => .analyze
  | change (.install _) => .install
  | change (.uninstall _) => .uninstall
  | batch _ => .batch

/-- The id or slug that is asked for. -/
def id? : Asking → Option String
  | query (.finding id) => some id
  | query (.fix id) => some id
  | query (.fixComments id) => some id
  | query (.repository id) => some id
  | query (.runStatus id) => some id
  | query (.runHistory id _) => some id
  | query (.asset slug) => some slug
  | query _ => none
  | change x => x.entity?
  | batch _ => none

end Asking

namespace Endpoint

def all : List Endpoint := [findings, finding, findingsSummary, findingsByDetector, fixes, fix,
  fixStats, fixComments, dashboard, trends, healthScore, repositories, repository, runStatus,
  runHistory, subscription, usage, invoices, assets, asset, installedAssets, triage, triageAll,
  approve, reject, apply, preview, batch, comment, checkout, portal, connect, remove, analyze,
  install, uninstall]

theorem mem_all (e : Endpoint) : e ∈ all := by
  cases e <;> decide

/-- The ids that are spelled like a function of their own: the function that takes the id, the id,
and the other function. -/
def reserved : List (Endpoint × String × Endpoint) :=
  [(finding, "summary", findingsSummary), (finding, "by-detector", findingsByDetector),
    (fix, "stats", fixStats)]

theorem fill_of_reserved {e f : Endpoint} {id : String} (h : (e, id, f) ∈ reserved) :
    e.method = f.method ∧ e.template.hasPlace ∧ f.template.hasPlace = false ∧
      e.template.fill (some id) = f.template.fill none := by
  have hall : ∀ r ∈ reserved, r.1.method = r.2.2.method ∧ r.1.template.hasPlace ∧
      r.2.2.template.hasPlace = false ∧
      r.1.template.fill (some r.2.1) = r.2.2.template.fill none := by
    decide +kernel
  exact hall _ h

/-- No two other functions have one method and paths that could be the same. -/
theorem eq_or_reserved_of_meets {e f : Endpoint} (hmethod : e.method = f.method)
    (hmeets : e.template.meets f.template) :
    e = f ∨ (∃ id, (e, id, f) ∈ reserved) ∨ ∃ id, (f, id, e) ∈ reserved := by
  have hall : ∀ e ∈ all, ∀ f ∈ all, e.method = f.method → e.template.meets f.template →
      e = f ∨ (∃ r ∈ reserved, r.1 = e ∧ r.2.2 = f) ∨ ∃ r ∈ reserved, r.1 = f ∧ r.2.2 = e := by
    decide +kernel
  obtain heq | ⟨⟨_, id, _⟩, hr, rfl, rfl⟩ | ⟨⟨_, id, _⟩, hr, rfl, rfl⟩ :=
    hall e (mem_all e) f (mem_all f) hmethod hmeets
  · exact .inl heq
  · exact .inr (.inl ⟨id, hr⟩)
  · exact .inr (.inr ⟨id, hr⟩)

end Endpoint

namespace Asking

theorem method_call (a : Asking) : a.call.method = a.endpoint.method := by
  cases a with
  | query q => cases q <;> rfl
  | change x => cases x <;> rfl
  | batch b => rfl

theorem path_call (a : Asking) : a.call.path = a.endpoint.template.fill a.id? := by
  cases a with
  | query q => cases q <;> rfl
  | change x => cases x <;> rfl
  | batch b => rfl

theorem isSome_id? (a : Asking) : a.id?.isSome = a.endpoint.template.hasPlace := by
  cases a with
  | query q => cases q <;> rfl
  | change x => cases x <;> rfl
  | batch b => rfl

theorem head?_path (a : Asking) : a.call.path.toList.head? = some '/' := by
  rw [path_call]
  exact Template.head?_fill _ _

/-- The id of the one is spelled like the function of the other. -/
def Impersonates (a b : Asking) : Prop :=
  ∃ id ∈ a.id?, (a.endpoint, id, b.endpoint) ∈ Endpoint.reserved

theorem Impersonates.path_eq {a b : Asking} (h : a.Impersonates b) :
    a.endpoint.method = b.endpoint.method ∧ a.call.path = b.call.path := by
  obtain ⟨id, hid, hreserved⟩ := h
  obtain ⟨hmethod, -, hplace, hfill⟩ := Endpoint.fill_of_reserved hreserved
  have hnone : b.id? = none := by
    rw [← Option.not_isSome_iff_eq_none, isSome_id?, hplace]
    exact Bool.false_ne_true
  refine ⟨hmethod, ?_⟩
  rw [path_call, path_call, Option.mem_def.1 hid, hnone, hfill]

theorem impersonates_of_reserved {a b : Asking} {id : String}
    (hreserved : (a.endpoint, id, b.endpoint) ∈ Endpoint.reserved)
    (hpath : a.call.path = b.call.path) : a.Impersonates b := by
  obtain ⟨-, hplace, hother, hfill⟩ := Endpoint.fill_of_reserved hreserved
  have hnone : b.id? = none := by
    rw [← Option.not_isSome_iff_eq_none, isSome_id?, hother]
    exact Bool.false_ne_true
  obtain ⟨i, hi⟩ := Option.isSome_iff_exists.1 (a.isSome_id?.trans hplace)
  rw [path_call, path_call, hi, hnone, ← hfill, Template.fill_inj hplace] at hpath
  exact ⟨id, hpath ▸ hi, hreserved⟩

theorem id?_eq_of_path_eq {a b : Asking} (hendpoint : a.endpoint = b.endpoint)
    (hpath : a.call.path = b.call.path) : a.id? = b.id? := by
  rw [path_call, path_call, ← hendpoint] at hpath
  have ha := a.isSome_id?
  have hb := b.isSome_id?
  rw [← hendpoint] at hb
  cases hi : a.id? <;> cases hj : b.id?
  · rfl
  · simp_all
  · simp_all
  · rw [hi, hj, Template.fill_inj (by rw [← ha, hi]; rfl)] at hpath
    rw [hpath]

theorem same_address_iff {a b : Asking} :
    a.call.method = b.call.method ∧ a.call.path = b.call.path ↔
      a.endpoint = b.endpoint ∧ a.id? = b.id? ∨ a.Impersonates b ∨ b.Impersonates a := by
  rw [method_call, method_call]
  constructor
  · rintro ⟨hmethod, hpath⟩
    have hmeets : a.endpoint.template.meets b.endpoint.template :=
      Template.meets_of_fill_eq (by rw [← path_call, ← path_call, hpath])
    obtain heq | ⟨id, hid⟩ | ⟨id, hid⟩ := Endpoint.eq_or_reserved_of_meets hmethod hmeets
    · exact .inl ⟨heq, id?_eq_of_path_eq heq hpath⟩
    · exact .inr (.inl (impersonates_of_reserved hid hpath))
    · exact .inr (.inr (impersonates_of_reserved hid hpath.symm))
  · rintro (⟨hendpoint, hid⟩ | h | h)
    · rw [path_call, path_call, hendpoint, hid]
      exact ⟨rfl, rfl⟩
    · exact h.path_eq
    · exact ⟨h.path_eq.1.symm, h.path_eq.2.symm⟩

/-- Two calls have the same method and path just when they are calls of the same function with the
same id, or when the id of one is spelled like the function of the other. The id of a call stands in
one segment of its path, between those that are the same for all calls of the function, and is what
the segment is decoded as. -/
theorem addresses_tell_calls_apart (c : Client) :
    (∀ a b : Asking,
      ((c.request a.call).method = (c.request b.call).method ∧
        (c.request a.call).path = (c.request b.call).path ↔
      a.endpoint = b.endpoint ∧ a.id? = b.id? ∨ a.Impersonates b ∨ b.Impersonates a)) ∧
    ∃ before after : Endpoint → List (List Char), ∀ a : Asking, ∃ own : List (List Char),
      segments (c.request a.call).path = before a.endpoint ++ own ++ after a.endpoint ∧
      own.map decode = a.id?.toList.map some := by
  refine ⟨fun a b => ?_, fun e => segments apiPrefix ++ e.template.before.tail,
    fun e => e.template.after, fun a => ?_⟩
  · rw [← same_address_iff]
    exact and_congr_right fun _ => String.append_right_inj apiPrefix
  · refine ⟨a.id?.toList.map fun id => (encode id).toList, ?_, ?_⟩
    · have hpath : (c.request a.call).path = apiPrefix ++ a.call.path := rfl
      have hown : (if a.endpoint.template.hasPlace then [(encode (a.id?.getD "")).toList] else []) =
          a.id?.toList.map fun id => (encode id).toList := by
        rw [← isSome_id?]
        cases a.id? <;> rfl
      rw [hpath, segments_append a.head?_path, path_call, Template.segments_fill, hown,
        List.append_assoc, List.tail_append_of_ne_nil (Template.before_ne_nil _)]
      simp only [List.append_assoc]
    · cases a.id? <;> simp [decode_encode]

end Asking

end CodeHealth
