import CodeHealth.Failure.Explanation
import CodeHealth.Proofs.Json.Members
import Mathlib

/-! Users are told the same, however a failure is wrapped. A fault at the root of any chain of
contexts counts as the fault alone, and so does a record that says the same under the names that it
is read by; a bare text, an error with that display and a text as a value are one and the same. -/

namespace CodeHealth

/-! ### One report in several forms -/

/-- What a failure says of itself: the status of the response, a message, and perhaps a code and an
advice. -/
structure Report where
  status : UInt16
  message : String
  code : Option String
  action : Option String

namespace Report

def facts (r : Report) : Facts where
  status := some r.status
  message := some r.message
  code := r.code
  action := r.action

def fault (r : Report) : Fault :=
  { Fault.ofStatus r.status r.message with errorCode := r.code, action := r.action }

/-- The member of a text, if there is one. -/
def member (name : String) (text : Option String) : List (String × Json) :=
  (text.map fun t => (name, Json.text t)).toList

/-- The members of a record that says the same; status and code go by one of two names. -/
def members (r : Report) (statusName codeName : String) : List (String × Json) :=
  (statusName, .whole r.status.toNat) :: ("message", .text r.message) ::
    (member codeName r.code ++ member "action" r.action)

def statusNames : List String := ["status", "status_code"]

def codeNames : List String := ["error_code", "code"]

/-- All names that a record is read by. -/
def names : List String := statusNames ++ ["message", "detail", "error"] ++ codeNames ++ ["action"]

/-- The forms in which a report may come. In a record its members may stand anywhere, among any
others whose names do not matter. -/
inductive Wraps (r : Report) : FailureSource → Prop where
  | fault : Wraps r (.fault r.fault)
  | chain (contexts : List String) : Wraps r (.ofChain (.inl r.fault) contexts)
  | record {ms : List (String × Json)} {statusName codeName : String}
      (hstatus : statusName ∈ statusNames) (hcode : codeName ∈ codeNames)
      (hms : ∀ name ∈ names, ∀ v, (name, v) ∈ ms ↔ (name, v) ∈ r.members statusName codeName) :
      Wraps r (.value (.record ms))

variable {r : Report} {ms : List (String × Json)} {statusName codeName name : String}

theorem nodup_members (hstatus : statusName ∈ statusNames) (hcode : codeName ∈ codeNames) :
    ((r.members statusName codeName).map Prod.fst).Nodup := by
  simp only [statusNames, codeNames, List.mem_cons, List.not_mem_nil, or_false] at hstatus hcode
  obtain ⟨status, message, code, action⟩ := r
  rcases hstatus with rfl | rfl <;> rcases hcode with rfl | rfl <;> cases code <;> cases action <;>
    simp [members, member]

theorem lookup_members : (r.members statusName codeName).lookup name =
    if name = statusName then some (.whole r.status.toNat)
    else if name = "message" then some (.text r.message)
    else (if name = codeName then r.code.map .text else none).or
      (if name = "action" then r.action.map .text else none) := by
  have hmember (key : String) (text : Option String) :
      (member key text).lookup name = if name = key then text.map .text else none := by
    cases text with
    | none => simp [member]
    | some t => simp [member, lookup_cons_ite]
  simp only [members, lookup_cons_ite, List.lookup_append, hmember]

theorem facts_members (hr : r.status ≠ 0) (hstatus : statusName ∈ statusNames)
    (hcode : codeName ∈ codeNames) :
    (FailureSource.value (.record (r.members statusName codeName))).facts = r.facts := by
  have hword : FailureSource.statusOf r.status.toNat = some r.status := by
    have hne : r.status.toNat ≠ 0 := fun h => hr (UInt16.toNat_inj.1 h)
    simp [FailureSource.statusOf, hne, r.status.toNat_lt]
  have htext (text : Option String) : (text.map Json.text).bind Json.text? = text := by
    cases text <;> rfl
  simp only [statusNames, codeNames, List.mem_cons, List.not_mem_nil, or_false] at hstatus hcode
  rcases hstatus with rfl | rfl <;> rcases hcode with rfl | rfl <;> cases hc : r.code <;>
    simp [FailureSource.facts, FailureSource.textAt, FailureSource.natural?, Json.get?, Json.text?,
      lookup_members, facts, hword, htext, hc]

/-- A record is read by these names only. -/
theorem facts_congr {ns : List (String × Json)} (h : ∀ n ∈ names, ms.lookup n = ns.lookup n) :
    (FailureSource.value (.record ms)).facts = (FailureSource.value (.record ns)).facts := by
  have hfirst {α : Type} (read : Json → Option α) (keys : List String)
      (hkeys : ∀ n ∈ keys, n ∈ names) :
      keys.findSome? (fun n => (ms.lookup n).bind read) =
        keys.findSome? fun n => (ns.lookup n).bind read := by
    induction keys with
    | nil => rfl
    | cons n keys ih =>
      obtain ⟨hn, hkeys⟩ := List.forall_mem_cons.1 hkeys
      rw [List.findSome?_cons, List.findSome?_cons, h n hn, ih hkeys]
  simp only [FailureSource.facts, FailureSource.textAt, Json.get?]
  rw [hfirst _ ["status", "status_code"] (by decide),
    hfirst _ ["message", "detail", "error"] (by decide), hfirst _ ["error_code", "code"] (by decide),
    hfirst _ ["action"] (by decide)]

/-- Every form of a report says the same. -/
theorem Wraps.facts_eq {s : FailureSource} (h : r.Wraps s) (hr : r.status ≠ 0) :
    s.facts = r.facts := by
  have hfault : (FailureSource.fault r.fault).facts = r.facts := by
    simp [FailureSource.facts, Report.fault, Fault.ofStatus, Fault.isNetwork, Fault.isMalformed,
      facts, hr]
  cases h with
  | fault => exact hfault
  | chain contexts => exact hfault
  | record hstatus hcode hms =>
    rw [← facts_members hr hstatus hcode]
    exact facts_congr fun n hn => Json.lookup_congr (nodup_members hstatus hcode) (hms n hn)

end Report

/-! ### One text in several forms -/

namespace FailureSource

/-- The display of a failure under contexts, each of which is put in front of all that is below. -/
def told (root : String) (contexts : List String) : String :=
  contexts.foldl (fun below context => context ++ ": " ++ below) root

theorem intercalate_contexts (root : String) (contexts : List String) :
    ": ".intercalate (contexts.reverse ++ [root]) = told root contexts := by
  induction contexts using List.reverseRecOn with
  | nil => simp [told]
  | append_singleton contexts context ih =>
    rw [List.reverse_append, List.reverse_singleton, List.singleton_append, List.cons_append,
      String.intercalate_cons_of_ne_nil (by simp), ih, told, told, List.foldl_append]
    rfl

/-- The forms in which no more than a text may come. -/
inductive Tells (text : String) : FailureSource → Prop where
  | message : Tells text (.message text)
  | error {root : String} {contexts : List String} (htold : told root contexts = text) :
      Tells text (.ofChain (.inr root) contexts)
  | value : Tells text (.value (.text text))

theorem Tells.facts_eq {text : String} {s : FailureSource} (h : Tells text s) :
    s.facts = { message := some text } := by
  cases h with
  | message => rfl
  | error htold => rw [ofChain, intercalate_contexts, htold, facts]
  | value => rfl

/-- However a failure is wrapped, the explanation is the same: that of the fault alone for a fault
under contexts and for a record that says the same, and that of the text for an error with this
display and for the text as a value. -/
theorem explained_alike :
    (∀ (r : Report) (s : FailureSource), r.status ≠ 0 → r.Wraps s →
      explain s = explain (.fault r.fault)) ∧
    ∀ (text : String) (s : FailureSource), Tells text s → explain s = explain (.message text) := by
  constructor
  · intro r s hr hs
    rw [explain, explain, hs.facts_eq hr, Report.Wraps.fault.facts_eq hr]
  · intro text s hs
    rw [explain, explain, hs.facts_eq, Tells.message.facts_eq]

/-- A record with its members in another order and one more, and an error under a context. -/
theorem explained_alike_of_record :
    explain (.value (.record [("trace", .null), ("code", .text "FIX_002"), ("status_code", .whole 409),
      ("message", .text "stale")])) = explain (.fault (Report.fault ⟨409, "stale", "FIX_002", none⟩)) ∧
    explain (.ofChain (.inr "timed out") ["sync"]) = explain (.message "sync: timed out") := by
  refine ⟨explained_alike.1 ⟨409, "stale", "FIX_002", none⟩ _ (by decide) ?_,
    explained_alike.2 _ _ (.error rfl)⟩
  refine @Report.Wraps.record _ _ "status_code" "code" (by decide) (by decide) ?_
  intro name hname v
  simp only [Report.names, Report.statusNames, Report.codeNames, List.cons_append, List.nil_append,
    List.mem_cons, List.not_mem_nil, or_false] at hname
  rcases hname with rfl | rfl | rfl | rfl | rfl | rfl | rfl | rfl <;>
    simp [Report.members, Report.member]

end FailureSource

end CodeHealth
