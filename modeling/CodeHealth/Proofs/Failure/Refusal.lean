import CodeHealth.Proofs.Failure.Explanation
import CodeHealth.Proofs.Json.Opening
import CodeHealth.Proofs.Json.Optional
import CodeHealth.Proofs.Session.Exchange
import Mathlib

/-! From the body of a refusal to what users are told. The members that a refusal may have are read
all together or not at all: one of the wrong type hides the others. Where they can be read, a code
and a detail reach the user as they were sent. -/

namespace CodeHealth

open Json (Sole Tree)
open Text (Blank)

/-! ### Refusals -/

namespace Refusal

/-- Nothing, or a text without half characters. -/
def OptionalText : Tree → Prop
  | .null => True
  | .text s => s.isSome
  | _ => False

/-- The members of a refusal can be read: each is there at most once and of its type, and the
others have names that can be read. -/
structure Legible (ms : List (Option String × Tree)) : Prop where
  names : ∀ m ∈ ms, m.1.isSome
  detail : Sole "detail" (fun t => (t.plain? (Tree.nestingLimit - 1)).isSome) ms
  errorCode : Sole "error_code" OptionalText ms
  action : Sole "action" OptionalText ms
  message : Sole "message" OptionalText ms

theorem isSome_decode_optionalText (t : Tree) :
    (Shape.decode (.option .text) t).isSome ↔ OptionalText t := by
  cases t with
  | text s => cases s <;> simp [Shape.decode, OptionalText]
  | _ => simp [Shape.decode, OptionalText]

theorem isSome_decode_optionalAny (limit : Nat) (t : Tree) :
    (Shape.decode (.option (.any limit)) t).isSome ↔ (t.plain? limit).isSome := by
  cases t with
  | null => simp [Shape.decode, Tree.plain?, Tree.depth, Tree.value?]
  | _ => simp [Shape.decode]

theorem isSome_decode_iff {ms : List (Option String × Tree)} :
    (shape.decode (.record ms)).isSome ↔ Legible ms := by
  have hnames : ms.all (·.1.isSome) ↔ ∀ m ∈ ms, m.1.isSome := List.all_eq_true
  have htext (name : String) : Sole name (fun t => (Shape.decode (.option .text) t).isSome) ms ↔
      Sole name OptionalText ms := Sole.congr isSome_decode_optionalText
  have hdetail : Sole "detail"
      (fun t => (Shape.decode (.option (.any (Tree.nestingLimit - 1))) t).isSome) ms ↔
      Sole "detail" (fun t => (t.plain? (Tree.nestingLimit - 1)).isSome) ms :=
    Sole.congr (isSome_decode_optionalAny _)
  rw [shape, Shape.decode]
  split
  next hall =>
    rw [Option.isSome_map, Shape.Fields.isSome_decode_cons, Shape.Fields.isSome_decode_cons,
      Shape.Fields.isSome_decode_cons, Shape.Fields.isSome_decode_cons, hdetail, htext, htext, htext]
    constructor
    · rintro ⟨hdetail, hcode, haction, hmessage, -⟩
      exact ⟨hnames.1 hall, hdetail, hcode, haction, hmessage⟩
    · intro h
      exact ⟨h.detail, h.errorCode, h.action, h.message, rfl⟩
  next hall => exact iff_of_false (by simp) fun h => hall (hnames.2 h.names)

section

variable {ms : List (Option String × Tree)} {r : Refusal} {text : String}

theorem errorCode_of_mem (h : shape.decode (.record ms) = some r)
    (hmem : (some "error_code", .text (some text)) ∈ ms) : r.errorCode = some text := by
  have hfields := (Shape.decode_record_eq_some_iff.1 h).2
  have hcode := Shape.Fields.decode_of_mem (Shape.Fields.decode_rest hfields) hmem
  exact (Option.some.inj hcode).symm

theorem detail_of_mem (h : shape.decode (.record ms) = some r)
    (hmem : (some "detail", .text (some text)) ∈ ms) : r.detail = some (.text text) := by
  have hfields := (Shape.decode_record_eq_some_iff.1 h).2
  have hdetail := Shape.Fields.decode_of_mem hfields hmem
  exact (Option.some.inj hdetail).symm

end

end Refusal

namespace Fault

variable (status : UInt16) {body : String} {ms : List (Option String × Tree)}

theorem read_eq (hbody : Tree.read body = some (.record ms)) :
    Refusal.shape.read body = Refusal.shape.decode (.record ms) := by
  rw [Shape.read, hbody]
  rfl

theorem ofResponse_of_legible (hbody : Tree.read body = some (.record ms))
    (hms : Refusal.Legible ms) : ∃ r, Refusal.shape.decode (.record ms) = some r ∧
      (ofResponse status body).message =
        ((r.detail.bind Refusal.detailText) <|> r.message).getD (fallbackMessage status body) ∧
      (ofResponse status body).errorCode = (r.errorCode <|> r.nestedText "error_code") := by
  obtain ⟨r, hr⟩ := Option.isSome_iff_exists.1 (Refusal.isSome_decode_iff.2 hms)
  refine ⟨r, hr, ?_⟩
  rw [ofResponse, read_eq hbody, hr]
  exact ⟨rfl, rfl⟩

/-- A record that cannot be read leaves nothing but the bare status. -/
theorem fallbackMessage_of_record (hbody : Tree.read body = some (.record ms)) :
    fallbackMessage status body = "HTTP " ++ toString status.toNat := by
  obtain ⟨spaces, rest, hs, hspaces⟩ := Json.brace_of_read hbody
  have hhead := Text.head?_trim hs (fun c hc => Json.Token.isBlank_of_isSpace (hspaces c hc)) rfl
  rw [fallbackMessage, hhead]
  simp

theorem ofResponse_of_not_legible (hbody : Tree.read body = some (.record ms))
    (hms : ¬ Refusal.Legible ms) : ofResponse status body =
      ⟨.response, status, "HTTP " ++ toString status.toNat, none, none, none⟩ := by
  have hr : Refusal.shape.decode (.record ms) = none := by
    rw [← Option.not_isSome_iff_eq_none, Refusal.isSome_decode_iff]
    exact hms
  rw [ofResponse, read_eq hbody, hr, fallbackMessage_of_record status hbody]
  rfl

theorem toList_bareStatus (n : Nat) :
    ("HTTP " ++ toString n).toList = "HTTP ".toList ++ Nat.toDigits 10 n := by
  rw [String.toList_append, Nat.toString_eq_ofList_toDigits]
  exact congrArg (_ ++ ·) String.toList_ofList

theorem trimmed_bareStatus (n : Nat) : Text.Trimmed ("HTTP " ++ toString n) := by
  rw [Text.Trimmed, toList_bareStatus]
  constructor
  · rintro c ⟨⟩
    rfl
  · intro c hc
    rw [List.getLast?_append_of_ne_nil _ Nat.toDigits_ne_nil] at hc
    exact Text.isBlank_of_isDecimal (Number.isDecimal_of_mem_toDigits (List.mem_of_getLast? hc))

theorem status_bind_ofStatus? (f : Fault) :
    (FailureSource.fault f).facts.status.bind FailureCode.ofStatus? =
      FailureCode.ofStatus? f.status := by
  rw [FailureSource.facts]
  split
  next h => rw [h]; rfl
  next => rfl

/-- The bare status is not shown. -/
theorem text?_of_bareStatus {f : Fault} {n : Nat} (h : f.message = "HTTP " ++ toString n) :
    (FailureSource.fault f).facts.text? = none := by
  refine Facts.text?_eq_none (congrArg some h) (.inr ?_)
  rw [(trimmed_bareStatus n).trim_eq, String.toList_append]
  exact List.prefix_append _ _

/-- A refusal that can be read is explained under the code that it gives. -/
theorem code_of_legible {code : String} (hbody : Tree.read body = some (.record ms))
    (hms : Refusal.Legible ms) (hmem : (some "error_code", .text (some code)) ∈ ms)
    (hne : code ≠ "") : (explain (.fault (ofResponse status body))).code = code := by
  obtain ⟨r, hr, -, hcode⟩ := ofResponse_of_legible status hbody hms
  rw [Refusal.errorCode_of_mem hr hmem] at hcode
  rw [explain, Facts.explain_code, Facts.unadvised_of_code hcode hne, Facts.explainCode_code]

/-- Of one that cannot be read, no more than the status is left. -/
theorem code_of_not_legible (hbody : Tree.read body = some (.record ms))
    (hms : ¬ Refusal.Legible ms) : (explain (.fault (ofResponse status body))).code =
      ((FailureCode.ofStatus? status).getD .unknown).code := by
  have hfault := ofResponse_of_not_legible status hbody hms
  generalize ofResponse status body = f at hfault
  have htext : (FailureSource.fault f).facts.text? = none :=
    text?_of_bareStatus (congrArg Fault.message hfault)
  have hwording : ¬ (FailureSource.fault f).facts.ByWording := by
    rintro ⟨-, -, -, text, hsays, -⟩
    rw [Facts.text?_eq_some_iff.2 hsays] at htext
    cases htext
  have hcode : (FailureSource.fault f).facts.code? = none := by rw [hfault]; rfl
  have hstatus := status_bind_ofStatus? f
  rw [explain, Facts.explain_code, Facts.unadvised_of_no_code (Facts.code?_eq_none_iff.1 hcode),
    Facts.infer_of_not_wording hcode (by rw [hfault]; rfl) (by rw [hfault]; rfl) hwording,
    Explanation.saying_code, hstatus, show f.status = status by rw [hfault]]
  rfl

theorem message_of_legible {detail : String} (hbody : Tree.read body = some (.record ms))
    (hms : Refusal.Legible ms) (hmem : (some "detail", .text (some detail)) ∈ ms) :
    (ofResponse status body).message = detail := by
  obtain ⟨r, hr, hmessage, -⟩ := ofResponse_of_legible status hbody hms
  rw [hmessage, Refusal.detail_of_mem hr hmem]
  rfl

end Fault

/-! ### What reaches the user -/

section

variable {ms : List (Option String × Tree)}

/-- Of a refusal with a code that is not empty, users are told that very code if all the members of
a refusal can be read; else the code that the status alone stands for. -/
theorem told_code_of_refusal {α β : Type} [Backend β] (c : Client) (call : Call α) (w : World β)
    {reply : Response} {code : String}
    (hreply : (w.send c.baseUrl (c.request call)).1 = .ok reply)
    (hfailure : reply.isSuccess = false) (hbody : Tree.read reply.body = some (.record ms))
    (hmem : (some "error_code", .text (some code)) ∈ ms) (hne : code ≠ "") :
    ∃ f, (c.ask call w).1 = .error f ∧
      (Refusal.Legible ms → (explain (.fault f)).code = code) ∧
      (¬ Refusal.Legible ms → (explain (.fault f)).code =
        ((FailureCode.ofStatus? reply.status).getD .unknown).code) := by
  refine ⟨.ofResponse reply.status reply.body, ?_, ?_, ?_⟩
  · have hask : (c.ask call w).1 = call.outcome (w.send c.baseUrl (c.request call)).1 := rfl
    rw [hask, hreply, Call.outcome, hfailure]
    rfl
  · exact fun hms => Fault.code_of_legible _ hbody hms hmem hne
  · exact Fault.code_of_not_legible _ hbody

/-- A member that no refusal has does not hide the code. -/
theorem told_code_beside_strange_member :
    let reply : Response := ⟨409, "\x7b\"error_code\":\"FIX_002\",\"trace\":[]\x7d"⟩
    let service := Script.empty.on .get "/api/v1/billing/usage" [.ok reply]
    let client : Client := ⟨"http://localhost", none, true⟩
    ∃ f, (client.ask Query.usage.call (.start service)).1 = .error f ∧
      (explain (.fault f)).code = "FIX_002" := by
  intro reply service client
  have hreply : ((World.start service).send client.baseUrl
      (client.request Query.usage.call)).1 = .ok reply := by
    have hsent : ((World.start service).send client.baseUrl
        (client.request Query.usage.call)).1.toOption = some reply := by
      decide +kernel
    revert hsent
    generalize ((World.start service).send _ _).1 = sent
    rintro hsent
    cases sent <;> cases hsent
    rfl
  have hbody : Tree.read reply.body =
      some (.record [(some "error_code", .text (some "FIX_002")), (some "trace", .list [])]) := by
    simp only [reply]
    rfl
  obtain ⟨f, hask, hcode, -⟩ := told_code_of_refusal client Query.usage.call (.start service) hreply
    rfl hbody List.mem_cons_self (by decide)
  exact ⟨f, hask, hcode (Refusal.isSome_decode_iff.1 (by decide +kernel))⟩

/-- Advice that is not a text hides the code. -/
theorem told_other_than_code :
    let reply : Response := ⟨409, "\x7b\"error_code\":\"FIX_002\",\"action\":5\x7d"⟩
    let service := Script.empty.on .get "/api/v1/billing/usage" [.ok reply]
    let client : Client := ⟨"http://localhost", none, true⟩
    (∃ ms, Tree.read reply.body = some (.record ms) ∧
      (some "error_code", .text (some "FIX_002")) ∈ ms) ∧
    (Query.usage.handle.fetch client (.start service)).1.error.map (·.code) =
      some FailureCode.conflict.code ∧ FailureCode.conflict.code ≠ "FIX_002" := by
  refine ⟨⟨[(some "error_code", .text (some "FIX_002")), (some "action", .number (some (.whole 5)))],
    rfl, List.mem_cons_self⟩, ?_, ?_⟩
  · decide +kernel
  · decide

/-- Unless its wording decides the code, the text of a refusal is what users are told, without the
blanks around it; a detail that is a text is this text. Only where the text is blank or a bare
status, the catalog has to answer. -/
theorem told_text_of_refusal (status : UInt16) (body : String)
    (hwording : ¬ (FailureSource.fault (.ofResponse status body)).facts.ByWording) :
    let f := Fault.ofResponse status body
    let e := explain (.fault f)
    (∀ ms detail, Tree.read body = some (.record ms) → Refusal.Legible ms →
      (some "detail", .text (some detail)) ∈ ms → ¬ Blank detail →
      ¬ "HTTP ".toList <+: (Text.trim detail).toList → e.message = Text.trim detail) ∧
    (¬ Blank f.message → ¬ "HTTP ".toList <+: (Text.trim f.message).toList →
      e.message = Text.trim f.message) ∧
    (Blank f.message ∨ "HTTP ".toList <+: (Text.trim f.message).toList →
      e.message = (e.known?.getD .unknown).entry.message) := by
  intro f e
  have hshown : e.message = _ := Facts.explain_message rfl rfl hwording
  have htext (hblank : ¬ Blank f.message)
      (hnot : ¬ "HTTP ".toList <+: (Text.trim f.message).toList) :
      e.message = Text.trim f.message := by
    have hsays : (FailureSource.fault f).facts.Says (Text.trim f.message) :=
      ⟨f.message, rfl, rfl, hblank, hnot⟩
    rw [hshown, Facts.text?_eq_some_iff.2 hsays, Option.getD_some]
  refine ⟨?_, htext, ?_⟩
  · intro ms detail hbody hms hmem
    rw [← Fault.message_of_legible status hbody hms hmem]
    exact htext
  · intro hbare
    rw [hshown, Facts.text?_eq_none rfl hbare, Option.getD_none]
    rfl

/-- The blanks around a detail are not shown. -/
theorem told_trimmed_detail :
    let body := "\x7b\"detail\":\" The fix is gone \"\x7d"
    (explain (.fault (.ofResponse 409 body))).message = "The fix is gone" := by
  intro body
  have hbody : Tree.read body =
      some (.record [(some "detail", .text (some " The fix is gone "))]) := by
    simp only [body]
    rfl
  have htrim : Text.trim " The fix is gone " = "The fix is gone" := by decide +kernel
  have htold := (told_text_of_refusal 409 body (by rintro ⟨-, -, h, -⟩; cases h)).1 _ _ hbody
    (Refusal.isSome_decode_iff.1 (by decide +kernel)) List.mem_cons_self
    (by rw [← Text.trim_eq_empty_iff, htrim]; decide)
  rw [htrim] at htold
  exact htold (by decide +kernel)

/-- A detail that is no more than the status is not shown. -/
theorem told_other_than_detail :
    let body := "\x7b\"detail\":\"HTTP 429\"\x7d"
    Tree.read body = some (.record [(some "detail", .text (some "HTTP 429"))]) ∧
      ¬ Blank "HTTP 429" ∧
      (explain (.fault (.ofResponse 429 body))).message ≠ Text.trim "HTTP 429" := by
  refine ⟨rfl, ?_, ?_⟩
  · rw [← Text.trim_eq_empty_iff]
    decide +kernel
  · decide +kernel

end

end CodeHealth
