import CodeHealth.Service.Script
import Mathlib

/-! What a scripted service answers, told from its history. Each route is known by the place in the
history at which it was registered. The latest route that fits answers, its counter is the number
of requests that it has answered before, and a route that is passed over keeps its counter. -/

namespace CodeHealth

namespace Script

/-- What a route is to answer with. -/
inductive Canned where
  | json (body : Json)
  | withStatus (status : UInt16) (body : Json)
  | raw (status : UInt16) (body : String)
  | sequence (bodies : List Json)
  | failure (message : String)

def Canned.replies : Canned → List Reply
  | .json body => [.ok ⟨200, body.compact⟩]
  | .withStatus status body => [.ok ⟨status, body.compact⟩]
  | .raw status body => [.ok ⟨status, body⟩]
  | .sequence bodies => bodies.map fun body => .ok ⟨200, body.compact⟩
  | .failure message => [.error (.network message)]

structure Registration where
  method : Method
  pattern : String
  canned : Canned

namespace Registration

def replies (x : Registration) : List Reply := x.canned.replies

/-- The route fits the request; one without replies is none. -/
def answers (x : Registration) (r : Request) : Bool :=
  !x.replies.isEmpty && (x.method == r.method && Route.matchesPath x.pattern r.path)

/-- The route after it has served `n` requests. -/
def route? (x : Registration) (n : ℕ) : Option Route :=
  match x.replies with
  | [] => none
  | first :: more => some ⟨x.method, x.pattern, first, more, n⟩

end Registration

def register (s : Script) (x : Registration) : Script :=
  match x.canned with
  | .json body => s.onStatus x.method x.pattern 200 body
  | .withStatus status body => s.onStatus x.method x.pattern status body
  | .raw status body => s.onRaw x.method x.pattern status body
  | .sequence bodies => s.onSequence x.method x.pattern bodies
  | .failure message => s.fail x.method x.pattern message

/-- What can be done with a script. -/
inductive Op where
  | register (x : Registration)
  | send (r : Request)

namespace Op

def apply (s : Script) : Op → Script
  | register x => s.register x
  | send r => (s.send r).2

def answers (r : Request) : Op → Bool
  | register x => x.answers r
  | send _ => false

def request? : Op → Option Request
  | register _ => none
  | send r => some r

def route? (n : ℕ) : Op → Option Route
  | register x => x.route? n
  | send _ => none

end Op

/-- The script after the given acts, from an empty one on. -/
def replay (past : List Op) : Script := past.foldl Op.apply empty

/-- The place of the latest registration that fits the request. -/
def latest? (past : List Op) (r : Request) : Option ℕ :=
  (past.zipIdx.filter fun p => p.1.answers r).getLast?.map Prod.snd

/-- How many requests have been answered by the route that was registered at place `i`. -/
def served (past : List Op) (i : ℕ) : ℕ :=
  (List.range past.length).countP fun j =>
    (past[j]?.bind Op.request?).any fun r => latest? (past.take j) r = some i

/-- The registered routes, the latest first, where the one of place `i` has served `count i`. -/
def routesOf (count : ℕ → ℕ) (past : List Op) : List Route :=
  (past.zipIdx.filterMap fun p => p.1.route? (count p.2)).reverse

theorem replay_concat (past : List Op) (o : Op) : replay (past ++ [o]) = o.apply (replay past) := by
  simp [replay]

/-! ### The latest route that fits -/

theorem latest?_concat (past : List Op) (o : Op) (r : Request) :
    latest? (past ++ [o]) r = if o.answers r then some past.length else latest? past r := by
  simp only [latest?, List.zipIdx_append, List.filter_append]
  cases h : o.answers r <;> simp [h]

/-- No act after the place of the latest route that fits registers another one. -/
theorem latest?_eq_some_iff {past : List Op} {r : Request} {i : ℕ} :
    latest? past r = some i ↔ (∃ o, past[i]? = some o ∧ o.answers r) ∧
      ∀ j o, i < j → past[j]? = some o → o.answers r = false := by
  induction past using List.reverseRecOn with
  | nil => simp [latest?]
  | append_singleton past o ih =>
    rw [latest?_concat]
    split_ifs with h
    · constructor
      · intro heq
        obtain rfl := Option.some.inj heq
        refine ⟨⟨o, by simp, h⟩, fun j o' hj ho' => ?_⟩
        rw [List.getElem?_eq_none (by simp; omega)] at ho'
        contradiction
      · rintro ⟨⟨o', ho', -⟩, hlater⟩
        have hlt := (List.getElem?_eq_some_iff.1 ho').1
        by_contra hne
        have hfit := hlater past.length o (by grind) (by simp)
        simp [h] at hfit
    · rw [ih]
      grind

theorem latest?_eq_none_iff {past : List Op} {r : Request} :
    latest? past r = none ↔ ∀ o ∈ past, o.answers r = false := by
  induction past using List.reverseRecOn with
  | nil => simp [latest?]
  | append_singleton past o ih =>
    rw [latest?_concat]
    split_ifs with h
    · simp [h]
    · simp [ih, or_imp, forall_and, Bool.eq_false_iff.2 h]

/-! ### Counters -/

theorem served_concat (past : List Op) (o : Op) (i : ℕ) : served (past ++ [o]) i = served past i +
    if o.request?.any fun r => latest? past r = some i then 1 else 0 := by
  simp only [served, List.length_append, List.length_singleton, List.range_succ,
    List.countP_append, List.countP_singleton]
  congr 1
  · refine List.countP_congr fun j hj => ?_
    rw [List.getElem?_append_left (List.mem_range.1 hj),
      List.take_append_of_le_length (List.mem_range.1 hj).le]
  · simp

theorem lt_of_latest? {past : List Op} {r : Request} {i : ℕ} (h : latest? past r = some i) :
    i < past.length := by
  obtain ⟨⟨o, ho, -⟩, -⟩ := latest?_eq_some_iff.1 h
  exact (List.getElem?_eq_some_iff.1 ho).1

/-- A route has served nothing before it is registered. -/
theorem served_of_le {past : List Op} {i : ℕ} (h : past.length ≤ i) : served past i = 0 := by
  induction past using List.reverseRecOn with
  | nil => rfl
  | append_singleton past o ih =>
    rw [List.length_append, List.length_singleton] at h
    have hnot : ∀ r, latest? past r ≠ some i := fun r hr => by
      have := lt_of_latest? hr
      omega
    simp [served_concat, ih (by omega), hnot]

/-- A request counts for the route that answers it, and a registration for none. -/
theorem served_send {past : List Op} {r : Request} {i : ℕ} (h : latest? past r = some i) :
    served (past ++ [.send r]) = Function.update (served past) i (served past i + 1) := by
  funext j
  by_cases hj : j = i
  · subst hj
    simp [served_concat, Op.request?, h]
  · simp [served_concat, Op.request?, h, hj, Ne.symm hj]

theorem served_send_of_none {past : List Op} {r : Request} (h : latest? past r = none) :
    served (past ++ [.send r]) = served past := by
  funext j
  simp [served_concat, Op.request?, h]

theorem served_register (past : List Op) (x : Registration) :
    served (past ++ [.register x]) = served past := by
  funext j
  simp [served_concat, Op.request?]

/-! ### Routes -/

theorem Op.answers_eq_any (o : Op) (r : Request) (n : ℕ) :
    o.answers r = (o.route? n).any fun t => t.answers r := by
  cases o with
  | send => rfl
  | register x =>
    cases hx : x.replies <;>
      simp [answers, route?, Registration.answers, Registration.route?, Route.answers, hx]

theorem Op.route?_succ (o : Op) (n : ℕ) :
    o.route? (n + 1) = (o.route? n).map fun t => { t with served := t.served + 1 } := by
  cases o with
  | send => rfl
  | register x => cases hx : x.replies <;> simp [route?, Registration.route?, hx]

theorem routesOf_concat (count : ℕ → ℕ) (past : List Op) (o : Op) :
    routesOf count (past ++ [o]) = (o.route? (count past.length)).toList ++ routesOf count past := by
  simp only [routesOf, List.zipIdx_append, List.filterMap_append, List.reverse_append]
  cases h : o.route? (count past.length) <;> simp [h]

theorem routesOf_congr {count count' : ℕ → ℕ} {past : List Op}
    (h : ∀ i < past.length, count i = count' i) : routesOf count past = routesOf count' past := by
  induction past using List.reverseRecOn with
  | nil => rfl
  | append_singleton past o ih =>
    simp only [List.length_append, List.length_singleton] at h
    rw [routesOf_concat, routesOf_concat, ih fun i hi => h i (by omega), h _ (by omega)]

/-- The latest route that fits answers, and only its counter moves. -/
theorem serve_routesOf {past : List Op} {r : Request} {i : ℕ} (count : ℕ → ℕ)
    (h : latest? past r = some i) : ∃ o t, past[i]? = some o ∧ o.route? (count i) = some t ∧
      serve r (routesOf count past) =
        some (t.reply, routesOf (Function.update count i (count i + 1)) past) := by
  induction past using List.reverseRecOn with
  | nil => simp [latest?] at h
  | append_singleton past o ih =>
    rw [latest?_concat, o.answers_eq_any r (count past.length)] at h
    -- a route that is passed over keeps its counter
    have hpassed : latest? past r = some i →
        (past ++ [o])[i]? = past[i]? ∧
          o.route? (Function.update count i (count i + 1) past.length) =
            o.route? (count past.length) := fun hi => by
      have hlt := lt_of_latest? hi
      exact ⟨List.getElem?_append_left hlt, by rw [Function.update_of_ne hlt.ne']⟩
    cases ht : o.route? (count past.length) with
    | none =>
      rw [ht] at h
      obtain ⟨o', t, ho', ht', hserve⟩ := ih (by simpa using h)
      obtain ⟨hget, hcount⟩ := hpassed (by simpa using h)
      refine ⟨o', t, hget.trans ho', ht', ?_⟩
      rw [routesOf_concat, routesOf_concat, hcount, ht]
      exact hserve
    | some s =>
      rw [ht, Option.any_some] at h
      split_ifs at h with hfit
      · obtain rfl := Option.some.inj h
        refine ⟨o, s, by simp, ht, ?_⟩
        have hrest : routesOf (Function.update count past.length (count past.length + 1)) past =
            routesOf count past := routesOf_congr fun i hi => Function.update_of_ne hi.ne _ _
        rw [routesOf_concat, routesOf_concat, ht, Function.update_self, o.route?_succ, ht, hrest]
        simp [serve, hfit]
      · obtain ⟨o', t, ho', ht', hserve⟩ := ih h
        obtain ⟨hget, hcount⟩ := hpassed h
        refine ⟨o', t, hget.trans ho', ht', ?_⟩
        rw [routesOf_concat, routesOf_concat, hcount, ht]
        simp [serve, hfit, hserve]

/-- Where no route fits, none answers. -/
theorem serve_routesOf_of_none {past : List Op} {r : Request} (count : ℕ → ℕ)
    (h : latest? past r = none) : serve r (routesOf count past) = none := by
  induction past using List.reverseRecOn with
  | nil => rfl
  | append_singleton past o ih =>
    rw [latest?_concat, o.answers_eq_any r (count past.length)] at h
    rw [routesOf_concat]
    cases ht : o.route? (count past.length) with
    | none => exact ih (by simpa [ht] using h)
    | some s =>
      rw [ht, Option.any_some] at h
      split_ifs at h with hfit
      simp [serve, hfit, ih h]

/-! ### Whole histories -/

theorem register_eq (s : Script) (x : Registration) :
    s.register x = s.on x.method x.pattern x.replies := by
  obtain ⟨method, pattern, canned⟩ := x
  cases canned <;> rfl

theorem routes_register (s : Script) (x : Registration) :
    (s.register x).routes = (x.route? 0).toList ++ s.routes := by
  rw [register_eq, Registration.route?]
  cases x.replies <;> rfl

theorem log_register (s : Script) (x : Registration) : (s.register x).log = s.log := by
  rw [register_eq]
  cases x.replies <;> rfl

theorem log_send (s : Script) (r : Request) : (s.send r).2.log = s.log ++ [r] := by
  unfold send
  cases serve r s.routes <;> rfl

/-- The routes of a script are those that have been registered, each with its counter. -/
theorem routes_replay (past : List Op) :
    (replay past).routes = routesOf (served past) past := by
  induction past using List.reverseRecOn with
  | nil => rfl
  | append_singleton past o ih =>
    rw [replay_concat, routesOf_concat]
    cases o with
    | register x =>
      rw [served_register, served_of_le le_rfl]
      exact (routes_register _ x).trans (congrArg _ ih)
    | send r =>
      simp only [Op.apply, Op.route?, Option.toList_none, List.nil_append, send, ih]
      cases h : latest? past r with
      | none =>
        rw [serve_routesOf_of_none _ h, served_send_of_none h]
      | some i =>
        obtain ⟨o, t, -, -, hserve⟩ := serve_routesOf (served past) h
        rw [hserve, served_send h]

theorem log_replay (past : List Op) : (replay past).log = past.filterMap Op.request? := by
  induction past using List.reverseRecOn with
  | nil => rfl
  | append_singleton past o ih =>
    rw [replay_concat, List.filterMap_append, ← ih]
    cases o with
    | register x => exact (log_register _ x).trans (List.append_nil _).symm
    | send r => exact log_send _ r

/-- The replies of a route in turn, the last one over and over. -/
theorem reply_eq (t : Route) :
    (t.first :: t.more)[min t.served t.more.length]? = some t.reply := by
  have hlength : ((t.first :: t.more).take (t.served + 1)).length - 1 =
      min t.served t.more.length := by
    simp
  calc (t.first :: t.more)[min t.served t.more.length]?
      = ((t.first :: t.more).take (t.served + 1))[min t.served t.more.length]? :=
        (List.getElem?_take_of_lt (by omega)).symm
    _ = (t.first :: t.more.take t.served).getLast? := by
        rw [← hlength, ← List.getLast?_eq_getElem?, List.take_succ_cons]
    _ = some t.reply := List.getLast?_cons

/-- The replies of a registration, as far as its route is concerned. -/
theorem reply_of_route? {o : Op} {n : ℕ} {t : Route} (h : o.route? n = some t) :
    ∃ x, o = .register x ∧ x.replies[min n (x.replies.length - 1)]? = some t.reply := by
  cases o with
  | send r => contradiction
  | register x =>
    refine ⟨x, rfl, ?_⟩
    simp only [Op.route?, Registration.route?] at h
    cases hx : x.replies with
    | nil => simp [hx] at h
    | cons first more =>
      rw [hx] at h
      obtain rfl := Option.some.inj h
      exact reply_eq ⟨x.method, x.pattern, first, more, n⟩

/-- What a history tells of the next request: the latest route that fits gives the reply whose turn
it is, and without such a route the answer is that there is none. -/
def Foretells (past : List Op) (r : Request) (reply : Reply) : Prop :=
  (∃ i x, past[i]? = some (.register x) ∧ x.answers r ∧
    (∀ j y, i < j → past[j]? = some (.register y) → y.answers r = false) ∧
    x.replies[min (served past i) (x.replies.length - 1)]? = some reply) ∨
  ((∀ y, .register y ∈ past → y.answers r = false) ∧ reply = .ok (missing r))

theorem foretells_send (past : List Op) (r : Request) :
    Foretells past r ((replay past).send r).1 := by
  rw [send, routes_replay]
  cases h : latest? past r with
  | none =>
    rw [serve_routesOf_of_none _ h]
    exact .inr ⟨fun y hy => latest?_eq_none_iff.1 h _ hy, rfl⟩
  | some i =>
    obtain ⟨⟨_, ho', hfit⟩, hlater⟩ := latest?_eq_some_iff.1 h
    obtain ⟨o, t, ho, ht, hserve⟩ := serve_routesOf (served past) h
    obtain ⟨x, rfl, hreply⟩ := reply_of_route? ht
    obtain rfl := Option.some.inj (ho.symm.trans ho')
    rw [hserve]
    exact .inl ⟨i, x, ho, hfit, fun j y hj hy => hlater j _ hj hy, hreply⟩

/-- After any history of registrations and requests, a script gives what the history foretells. It
has the registered routes, each with the number of the requests that it has answered; another
request counts for the route that answers it and for no other. Every request has been logged once,
and a sequence without replies changes nothing. -/
theorem replay_exact (past : List Op) :
    (∀ r, Foretells past r ((replay past).send r).1) ∧
    (replay past).routes = routesOf (served past) past ∧
    (∀ r i, served (past ++ [.send r]) i =
      served past i + if latest? past r = some i then 1 else 0) ∧
    (replay past).log = past.filterMap Op.request? ∧
    ∀ method pattern, (replay past).register ⟨method, pattern, .sequence []⟩ = replay past := by
  refine ⟨foretells_send past, routes_replay past, fun r i => ?_, log_replay past, fun _ _ => rfl⟩
  simp [served_concat, Op.request?]

end Script

end CodeHealth
