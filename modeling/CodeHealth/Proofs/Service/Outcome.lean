import CodeHealth.Proofs.Service.Address
import CodeHealth.Proofs.Service.Body
import CodeHealth.Proofs.Service.Query
import CodeHealth.Proofs.Session.Exchange
import CodeHealth.Proofs.Text.Trim
import Mathlib

/-! What becomes of a call. Whatever is asked, one request leaves for the service, and the reply
alone decides the outcome: a response of success whose body can be read, a response of another
status, a body that cannot be read, or no response. -/

namespace CodeHealth

open Text (Blank)

/-! ### The request that leaves -/

namespace Request

theorem trimSlashes_spec (s : String) : ∃ base slashes : List Char, s.toList = base ++ slashes ∧
    (∀ c ∈ slashes, c = '/') ∧ base.getLast? ≠ some '/' ∧ (trimSlashes s).toList = base := by
  have hsplit := List.takeWhile_append_dropWhile (p := (· == '/')) (l := s.toList.reverse)
  refine ⟨(s.toList.reverse.dropWhile (· == '/')).reverse,
    (s.toList.reverse.takeWhile (· == '/')).reverse, ?_, ?_, ?_, String.toList_ofList⟩
  · rw [← List.reverse_append, hsplit, List.reverse_reverse]
  · intro c hc
    simpa using List.mem_takeWhile_imp (List.mem_reverse.1 hc)
  · rw [List.getLast?_reverse]
    intro hlast
    have hhead := List.head?_dropWhile_not (· == '/') s.toList.reverse
    rw [hlast] at hhead
    contradiction

theorem toList_target (r : Request) : r.target.toList =
    r.path.toList ++ if r.query = [] then [] else '?' :: r.queryString.toList := by
  unfold target
  by_cases hquery : r.query = []
  · simp [hquery]
  · rw [if_neg hquery, if_neg (by simpa using hquery), String.toList_append, String.toList_append,
      List.append_assoc]
    rfl

end Request

/-- A request of a client that has left for `address`. -/
structure Client.Leaves (c : Client) (address : String) (r : Request) : Prop where
  /-- The base without the slashes at its end, the path and the query string, if there is one. -/
  address : ∃ base slashes : List Char, c.baseUrl.toList = base ++ slashes ∧
    (∀ d ∈ slashes, d = '/') ∧ base.getLast? ≠ some '/' ∧ address.toList =
      base ++ (r.path.toList ++ if r.query = [] then [] else '?' :: r.queryString.toList)
  versioned : "/api/v1/".toList <+: r.path.toList
  headers : ∀ name value, (name, value) ∈ r.headers ↔
    (name = "Accept" ∧ value = "application/json") ∨
    (name = "X-Request-ID" ∧ value = requestId) ∨
    (name = "Authorization" ∧ ∃ token, c.token = some token ∧ value = "Bearer " ++ token) ∨
    (name = "Content-Type" ∧ value = "application/json" ∧ r.body.isSome)
  distinct : (r.headers.map Prod.fst).Nodup
  body : ∀ text ∈ r.body, ∃ v, Json.read text = some v

namespace Client

theorem mem_headers {c : Client} {body : Option Json} {name value : String} :
    (name, value) ∈ c.headers body ↔
      (name = "Accept" ∧ value = "application/json") ∨
      (name = "X-Request-ID" ∧ value = requestId) ∨
      (name = "Authorization" ∧ ∃ token, c.token = some token ∧ value = "Bearer " ++ token) ∨
      (name = "Content-Type" ∧ value = "application/json" ∧ body.isSome) := by
  obtain ⟨baseUrl, token, ready⟩ := c
  cases token <;> cases body <;> simp [headers, Pairs.optional]

theorem nodup_headers (c : Client) (body : Option Json) :
    ((c.headers body).map Prod.fst).Nodup := by
  obtain ⟨baseUrl, token, ready⟩ := c
  cases token <;> cases body <;> simp [headers, Pairs.optional]

end Client

/-! ### What it carries -/

namespace Asking

/-- A call has no body, or a record of flat values. -/
theorem isFlat_body {a : Asking} {v : Json} (h : a.call.body = some v) :
    ∃ ms, v = .record ms ∧ ∀ m ∈ ms, m.2.IsFlat := by
  cases a with
  | query q => contradiction
  | change x => exact Change.isFlat_body h
  | batch b =>
    obtain rfl := Option.some.inj h
    refine ⟨_, rfl, List.forall_mem_cons.2 ⟨Json.isFlat_texts _, List.forall_mem_cons.2 ⟨?_, ?_⟩⟩⟩
    · exact Json.isFlat_text _
    · exact Change.isFlat_reasonMember _

theorem leaves_request (c : Client) (a : Asking) :
    c.Leaves ((c.request a.call).url c.baseUrl) (c.request a.call) where
  address := by
    obtain ⟨base, slashes, hsplit, hslashes, hlast, htrim⟩ := Request.trimSlashes_spec c.baseUrl
    refine ⟨base, slashes, hsplit, hslashes, hlast, ?_⟩
    rw [Request.url, String.toList_append, htrim, Request.toList_target]
  versioned := by
    obtain ⟨cs, hcs⟩ := List.head?_eq_some_iff.1 a.head?_path
    refine ⟨cs, ?_⟩
    have hpath : (c.request a.call).path = apiPrefix ++ a.call.path := rfl
    rw [hpath, String.toList_append, hcs]
    rfl
  headers name value := by
    have hbody : (c.request a.call).body.isSome = a.call.body.isSome := Option.isSome_map
    rw [hbody]
    exact Client.mem_headers
  distinct := c.nodup_headers a.call.body
  body text htext := by
    obtain ⟨v, hv, rfl⟩ := Option.mem_map.1 htext
    obtain ⟨ms, rfl, hms⟩ := isFlat_body hv
    exact ⟨_, Json.read_record hms⟩

end Asking

/-! ### What the reply means -/

/-- The text that a body is read as. -/
def ReadAs (body text : String) : Prop :=
  (Blank body ∧ text = "null") ∨ (¬ Blank body ∧ text = body)

theorem readAs_iff {body text : String} : ReadAs body text ↔ text = bodyText body := by
  rw [ReadAs, bodyText, ← Text.trim_eq_empty_iff]
  by_cases hblank : Text.trim body = ""
  · simp [hblank]
  · simp [hblank]

theorem Response.isSuccess_iff (r : Response) :
    r.isSuccess ↔ 200 ≤ r.status.toNat ∧ r.status.toNat ≤ 299 := by
  have hhigh : r.status.toNat < 300 ↔ r.status.toNat ≤ 299 := Nat.lt_succ_iff
  simp only [isSuccess, Bool.and_eq_true, decide_eq_true_eq, UInt16.le_iff_toNat_le,
    UInt16.lt_iff_toNat_lt]
  exact and_congr_right fun _ => hhigh

namespace Call

variable {α : Type} {call : Call α} {status : UInt16} {body : String}

theorem outcome_eq_ok_iff_readAs {reply : Reply} {a : α} : call.outcome reply = .ok a ↔
    ∃ status body text, reply = .ok ⟨status, body⟩ ∧ 200 ≤ status.toNat ∧ status.toNat ≤ 299 ∧
      ReadAs body text ∧ call.answer.read text = some a := by
  rw [outcome_eq_ok_iff]
  constructor
  · rintro ⟨⟨status, body⟩, hreply, hsuccess, hread⟩
    obtain ⟨hlow, hhigh⟩ := (Response.isSuccess_iff _).1 hsuccess
    exact ⟨status, body, bodyText body, hreply, hlow, hhigh, readAs_iff.2 rfl, hread⟩
  · rintro ⟨status, body, text, hreply, hlow, hhigh, htext, hread⟩
    rw [readAs_iff.1 htext] at hread
    exact ⟨⟨status, body⟩, hreply, (Response.isSuccess_iff _).2 ⟨hlow, hhigh⟩, hread⟩

/-- Another status than one of success is a fault of the response. -/
theorem fault_of_status (h : ¬ (200 ≤ status.toNat ∧ status.toNat ≤ 299)) :
    ∃ f, call.outcome (.ok ⟨status, body⟩) = .error f ∧ f.kind = .response ∧ f.status = status ∧
      ¬ f.isNetwork := by
  have hfailure : ¬ (Response.mk status body).isSuccess := fun hs =>
    h ((Response.isSuccess_iff _).1 hs)
  refine ⟨.ofResponse status body, ?_, rfl, rfl, Bool.false_ne_true⟩
  simp [outcome, hfailure]

/-- So is a body that cannot be read, but of its own kind. -/
theorem fault_of_body (hlow : 200 ≤ status.toNat) (hhigh : status.toNat ≤ 299)
    (h : ∀ text, ReadAs body text → call.answer.read text = none) :
    ∃ f, call.outcome (.ok ⟨status, body⟩) = .error f ∧ f.kind = .malformed ∧ f.status = status ∧
      ¬ f.isNetwork := by
  have hsuccess : (Response.mk status body).isSuccess := (Response.isSuccess_iff _).2 ⟨hlow, hhigh⟩
  have hread : call.answer.read (bodyText body) = none := h _ (readAs_iff.2 rfl)
  refine ⟨.unreadable status "unexpected body", ?_, rfl, rfl, Bool.false_ne_true⟩
  simp [outcome, hsuccess, hread]

end Call

section

variable {β : Type} [Backend β]

/-- Whatever is asked, just one request leaves, for the address of the client, and the reply decides
the outcome. A response of success whose body can be read gives the value that was read, any other
status a fault of the response, a body that cannot be read a malformed one, both with the status of
the response, and without a response the fault of the line is what is left. -/
theorem one_request_one_outcome (c : Client) (a : Asking) (w : World β) :
    let r := c.request a.call
    let reply := (Backend.send w.backend c.baseUrl r).1
    let outcome := (c.ask a.call w).1
    (c.ask a.call w).2 = ⟨w.cache, (Backend.send w.backend c.baseUrl r).2,
      w.sent ++ [(r.url c.baseUrl, r)]⟩ ∧
    c.Leaves (r.url c.baseUrl) r ∧
    (∀ v, outcome = .ok v ↔ ∃ status body text, reply = .ok ⟨status, body⟩ ∧
      200 ≤ status.toNat ∧ status.toNat ≤ 299 ∧ ReadAs body text ∧
      a.call.answer.read text = some v) ∧
    (∀ status body, reply = .ok ⟨status, body⟩ →
      ¬ (200 ≤ status.toNat ∧ status.toNat ≤ 299) →
      ∃ f, outcome = .error f ∧ f.kind = .response ∧ f.status = status ∧ ¬ f.isNetwork) ∧
    (∀ status body, reply = .ok ⟨status, body⟩ → 200 ≤ status.toNat → status.toNat ≤ 299 →
      (∀ text, ReadAs body text → a.call.answer.read text = none) →
      ∃ f, outcome = .error f ∧ f.kind = .malformed ∧ f.status = status ∧ ¬ f.isNetwork) ∧
    ∀ f, reply = .error f → outcome = .error f := by
  intro r reply outcome
  have houtcome : outcome = a.call.outcome reply := rfl
  refine ⟨rfl, a.leaves_request c, fun v => ?_, ?_, ?_, ?_⟩
  · rw [houtcome]
    exact Call.outcome_eq_ok_iff_readAs
  · intro status body hreply hstatus
    rw [houtcome, hreply]
    exact Call.fault_of_status hstatus
  · intro status body hreply hlow hhigh hread
    rw [houtcome, hreply]
    exact Call.fault_of_body hlow hhigh hread
  · intro f hreply
    rw [houtcome, hreply]
    rfl

end

/-- A removal that is confirmed without a word, refused, answered with something else, and lost. -/
theorem outcomes_of_removal :
    let client : Client := ⟨"http://localhost//", some "t", true⟩
    let outcome (reply : Reply) := (client.ask (Asking.change (.remove "7")).call
      (.start (Script.empty.on .delete "/api/v1/repositories/7" [reply]))).1
    outcome (.ok ⟨204, " \n"⟩) = .ok () ∧
    (∃ f, outcome (.ok ⟨409, "5"⟩) = .error f ∧ f.kind = .response ∧ f.status = 409 ∧
      ¬ f.isNetwork) ∧
    (∃ f, outcome (.ok ⟨200, "5"⟩) = .error f ∧ f.kind = .malformed ∧ f.status = 200 ∧
      ¬ f.isNetwork) ∧
    outcome (.error (.network "refused")) = .error (.network "refused") := by
  intro client outcome
  let a : Asking := .change (.remove "7")
  let world (reply : Reply) : World Script :=
    .start (Script.empty.on .delete "/api/v1/repositories/7" [reply])
  have hreply (reply : Reply) :
      (Backend.send (world reply).backend client.baseUrl (client.request a.call)).1 = reply := by
    have hanswers : Route.answers ⟨.delete, "/api/v1/repositories/7", reply, [], 0⟩
        (client.request a.call) := by
      simp only [Route.answers]
      decide +kernel
    change (Script.send (Script.empty.on .delete _ [reply]) _).1 = reply
    simp only [Script.send, Script.on, Script.empty, Script.serve, hanswers, if_true]
    rfl
  obtain ⟨-, -, hok, -⟩ := one_request_one_outcome client a (world (.ok ⟨204, " \n"⟩))
  obtain ⟨-, -, -, hrefused, -⟩ := one_request_one_outcome client a (world (.ok ⟨409, "5"⟩))
  obtain ⟨-, -, -, -, hunread, -⟩ := one_request_one_outcome client a (world (.ok ⟨200, "5"⟩))
  obtain ⟨-, -, -, -, -, hlost⟩ :=
    one_request_one_outcome client a (world (.error (.network "refused")))
  refine ⟨(hok ()).2 ⟨204, " \n", "null", hreply _, by decide, by decide, .inl ⟨?_, rfl⟩, ?_⟩,
    hrefused 409 "5" (hreply _) (by decide),
    hunread 200 "5" (hreply _) (by decide) (by decide) fun text htext => ?_,
    hlost _ (hreply _)⟩
  · rw [← Text.trim_eq_empty_iff]
    decide +kernel
  · decide +kernel
  · rw [readAs_iff.1 htext]
    decide +kernel

end CodeHealth
