import CodeHealth.Failure.Explanation
import CodeHealth.Proofs.Text.Trim
import Mathlib

/-! Explanations hang together, whatever they are made from. The code comes from the first source
that has one, in a fixed order; category, title and the two flags are those of that code in the
catalog, or the common ones of a code that is not there; and nothing that users read is empty. -/

namespace CodeHealth

open Text (Blank Trimmed)

/-! ### The catalog -/

namespace FailureCode

theorem mem_all (c : FailureCode) : c ∈ all := by
  cases c <;> decide

/-- A code as it is compared: the case of its letters does not matter. -/
def letters (c : FailureCode) : List Char := c.code.toList.map Char.toLower

theorem nodup_letters : (all.map letters).Nodup := by
  simp only [all, letters, code, entry, List.map_cons, List.map_nil, String.reduceToList]
  decide +kernel

theorem letters_injective : Function.Injective letters := fun c d h =>
  List.inj_on_of_nodup_map nodup_letters (mem_all c) (mem_all d) h

theorem sameIgnoringAsciiCase_code (c : FailureCode) (s : String) :
    Text.sameIgnoringAsciiCase c.code s ↔ c.letters = s.toList.map Char.toLower := by
  simp [Text.sameIgnoringAsciiCase, letters]

theorem letters_of_find? {s : String} {c : FailureCode}
    (h : all.find? (fun d => Text.sameIgnoringAsciiCase d.code s) = some c) :
    c.letters = s.toList.map Char.toLower := by
  rw [← sameIgnoringAsciiCase_code]
  simpa using List.find?_some h

/-- A spelling stands for a code if it is that code up to case and the blanks around it. -/
theorem ofCode?_eq_some_iff {s : String} {c : FailureCode} :
    ofCode? s = some c ↔ c.letters = (Text.trim s).toList.map Char.toLower := by
  unfold ofCode?
  refine ⟨letters_of_find?, fun h => ?_⟩
  cases hfind : all.find? fun d => Text.sameIgnoringAsciiCase d.code (Text.trim s) with
  | none =>
    have hc := List.find?_eq_none.1 hfind c (mem_all c)
    rw [sameIgnoringAsciiCase_code] at hc
    exact absurd h hc
  | some d => rw [letters_injective ((letters_of_find? hfind).trans h.symm)]

theorem trimmed_code (c : FailureCode) : Trimmed c.code := by
  cases c <;> exact Text.trimmed_ofList rfl rfl

theorem ofCode?_code (c : FailureCode) : ofCode? c.code = some c := by
  rw [ofCode?_eq_some_iff, c.trimmed_code.trim_eq, letters]

/-- No text of the catalog is empty. -/
theorem entry_ne_empty (c : FailureCode) : c.entry.code ≠ "" ∧ c.entry.title ≠ "" ∧
    c.entry.message ≠ "" ∧ c.entry.action ≠ "" := by
  cases c <;> simp [entry, upgrade]

theorem trimmed_message (c : FailureCode) : Trimmed c.entry.message := by
  cases c <;> exact Text.trimmed_ofList rfl rfl

end FailureCode

/-! ### The wording of a message -/

namespace MessagePattern

/-- The first row of the table with a phrase that occurs in the message gives the code. -/
def Decides (message : String) (c : FailureCode) : Prop :=
  ∃ before row after, table = before ++ row :: after ∧ row.2 = c ∧
    (∃ phrase ∈ row.1, Text.Phrase.occursIn phrase message) ∧
    ∀ earlier ∈ before, ∀ phrase ∈ earlier.1, Text.Phrase.occursIn phrase message = false

theorem find?_eq_some_iff {message : String} {c : FailureCode} :
    find? message = some c ↔ Decides message c := by
  simp only [find?, Option.map_eq_some_iff, List.find?_eq_some_iff_append, List.any_eq_true,
    Decides]
  constructor
  · rintro ⟨row, ⟨hrow, before, after, htable, hbefore⟩, hc⟩
    exact ⟨before, row, after, htable, hc, hrow, by simpa using hbefore⟩
  · rintro ⟨before, row, after, htable, hc, hrow, hbefore⟩
    exact ⟨row, ⟨hrow, before, after, htable, by simpa using hbefore⟩, hc⟩

end MessagePattern

/-! ### The code -/

namespace Facts

/-- The message of the source is worth showing: it is not blank, and not the bare status. -/
def Says (f : Facts) (text : String) : Prop :=
  ∃ message, f.message = some message ∧ Text.trim message = text ∧ ¬ Blank message ∧
    ¬ "HTTP ".toList <+: text.toList

variable {f : Facts} {c : FailureCode}

theorem text?_eq_some_iff {text : String} : f.text? = some text ↔ f.Says text := by
  have hshown (message : String) : (!(Text.trim message).isEmpty &&
      !"HTTP ".toList.isPrefixOf (Text.trim message).toList) = true ↔
        ¬ Blank message ∧ ¬ "HTTP ".toList <+: (Text.trim message).toList := by
    rw [Bool.and_eq_true, Bool.not_eq_true', Bool.not_eq_true', ← Bool.not_eq_true,
      ← Bool.not_eq_true, List.isPrefixOf_iff_prefix, String.isEmpty_iff, Text.trim_eq_empty_iff]
  simp only [text?, Option.filter_eq_some_iff, Option.map_eq_some_iff, Says]
  constructor
  · rintro ⟨⟨message, hmessage, rfl⟩, h⟩
    exact ⟨message, hmessage, rfl, (hshown message).1 h⟩
  · rintro ⟨message, hmessage, rfl, h⟩
    exact ⟨⟨message, hmessage, rfl⟩, (hshown message).2 h⟩

theorem text?_eq_none {message : String} (h : f.message = some message)
    (hbare : Blank message ∨ "HTTP ".toList <+: (Text.trim message).toList) : f.text? = none := by
  rw [Option.eq_none_iff_forall_ne_some]
  intro text htext
  obtain ⟨message', hmessage, rfl, hblank, hshown⟩ := text?_eq_some_iff.1 htext
  obtain rfl : message = message' := Option.some.inj (h.symm.trans hmessage)
  exact hbare.elim hblank hshown

theorem Says.trimmed {text : String} (h : f.Says text) : Trimmed text := by
  obtain ⟨message, -, rfl, -⟩ := h
  exact Text.trimmed_trim message

theorem Says.ne_empty {text : String} (h : f.Says text) : text ≠ "" := by
  obtain ⟨message, -, rfl, hblank, -⟩ := h
  rwa [Ne, Text.trim_eq_empty_iff]

theorem code?_eq_some_iff {code : String} : f.code? = some code ↔ f.code = some code ∧ code ≠ "" := by
  simp [code?, Option.filter_eq_some_iff]

theorem code?_eq_none_iff : f.code? = none ↔ ∀ code, f.code = some code → code = "" := by
  simp [code?, Option.filter_eq_none_iff]

/-- The codes that follow from what a source says without giving one: from a body that cannot be
read, else from the status, else from the wording, else from the lack of any response. -/
inductive Infers (f : Facts) : FailureCode → Prop where
  | malformed (hmalformed : f.malformed) : Infers f .malformedPayload
  | status {c : FailureCode} (hmalformed : f.malformed = false)
      (hstatus : f.status.bind FailureCode.ofStatus? = some c) : Infers f c
  | wording {c : FailureCode} {text : String} (hmalformed : f.malformed = false)
      (hstatus : f.status.bind FailureCode.ofStatus? = none) (htext : f.Says text)
      (hwording : MessagePattern.Decides text c) : Infers f c
  | silence (hmalformed : f.malformed = false)
      (hstatus : f.status.bind FailureCode.ofStatus? = none)
      (hwording : ∀ text, f.Says text → ∀ c, ¬ MessagePattern.Decides text c)
      (hresponse : f.noResponse) : Infers f .networkOffline
  | other (hmalformed : f.malformed = false)
      (hstatus : f.status.bind FailureCode.ofStatus? = none)
      (hwording : ∀ text, f.Says text → ∀ c, ¬ MessagePattern.Decides text c)
      (hresponse : f.noResponse = false) : Infers f .unknown

theorem wording_eq_some_iff : f.text?.bind MessagePattern.find? = some c ↔
    ∃ text, f.Says text ∧ MessagePattern.Decides text c := by
  simp only [Option.bind_eq_some_iff, text?_eq_some_iff, MessagePattern.find?_eq_some_iff]

theorem wording_eq_none_iff : f.text?.bind MessagePattern.find? = none ↔
    ∀ text, f.Says text → ∀ c, ¬ MessagePattern.Decides text c := by
  rw [Option.eq_none_iff_forall_ne_some]
  constructor
  · intro h text htext c hdecides
    exact h c (wording_eq_some_iff.2 ⟨text, htext, hdecides⟩)
  · intro h c hc
    obtain ⟨text, htext, hdecides⟩ := wording_eq_some_iff.1 hc
    exact h text htext c hdecides

section

variable (hmalformed : f.malformed = false)

theorem infer_of_malformed (h : f.malformed) : f.infer = .ofCode .malformedPayload := by
  simp [infer, h]

include hmalformed

theorem infer_of_status (hstatus : f.status.bind FailureCode.ofStatus? = some c) :
    f.infer = (Explanation.ofCode c).saying f.text? := by
  simp [infer, hmalformed, hstatus]

variable (hstatus : f.status.bind FailureCode.ofStatus? = none)
include hstatus

theorem infer_of_wording (hwording : f.text?.bind MessagePattern.find? = some c) :
    f.infer = .ofCode c := by
  simp [infer, hmalformed, hstatus, hwording]

variable (hwording : f.text?.bind MessagePattern.find? = none)
include hwording

theorem infer_of_silence (hresponse : f.noResponse) : f.infer = .ofCode .networkOffline := by
  simp [infer, hmalformed, hstatus, hwording, hresponse]

theorem infer_of_other (hresponse : f.noResponse = false) :
    f.infer = (Explanation.ofCode .unknown).saying f.text? := by
  simp [infer, hmalformed, hstatus, hwording, hresponse]

end

/-- Without a code of its own, a source is explained by the code that follows from what it says. -/
theorem exists_infers (f : Facts) : ∃ c, f.Infers c ∧
    (f.infer = .ofCode c ∨ f.infer = (Explanation.ofCode c).saying f.text?) := by
  cases hmalformed : f.malformed with
  | true => exact ⟨_, .malformed hmalformed, .inl (infer_of_malformed hmalformed)⟩
  | false =>
    cases hstatus : f.status.bind FailureCode.ofStatus? with
    | some c => exact ⟨c, .status hmalformed hstatus, .inr (infer_of_status hmalformed hstatus)⟩
    | none =>
      cases hwording : f.text?.bind MessagePattern.find? with
      | some c =>
        obtain ⟨text, htext, hdecides⟩ := wording_eq_some_iff.1 hwording
        exact ⟨c, .wording hmalformed hstatus htext hdecides,
          .inl (infer_of_wording hmalformed hstatus hwording)⟩
      | none =>
        have hsilent := wording_eq_none_iff.1 hwording
        cases hresponse : f.noResponse with
        | true => exact ⟨_, .silence hmalformed hstatus hsilent hresponse,
            .inl (infer_of_silence hmalformed hstatus hwording hresponse)⟩
        | false => exact ⟨_, .other hmalformed hstatus hsilent hresponse,
            .inr (infer_of_other hmalformed hstatus hwording hresponse)⟩

/-- No two codes follow from what a source says. -/
theorem Infers.unique {d : FailureCode} (hc : f.Infers c) (hd : f.Infers d) : c = d := by
  cases hc with
  | malformed hmalformed => cases hd <;> simp_all
  | status hmalformed hstatus => cases hd <;> simp_all
  | wording hmalformed hstatus htext hdecides =>
    have hwording := wording_eq_some_iff.2 ⟨_, htext, hdecides⟩
    cases hd with
    | wording _ _ htext' hdecides' =>
      have hwording' := wording_eq_some_iff.2 ⟨_, htext', hdecides'⟩
      exact Option.some.inj (hwording.symm.trans hwording')
    | silence _ _ hsilent _ => exact absurd hdecides (hsilent _ htext _)
    | other _ _ hsilent _ => exact absurd hdecides (hsilent _ htext _)
    | _ => simp_all
  | silence hmalformed hstatus hsilent hresponse =>
    cases hd with
    | wording _ _ htext hdecides => exact absurd hdecides (hsilent _ htext _)
    | _ => simp_all
  | other hmalformed hstatus hsilent hresponse =>
    cases hd with
    | wording _ _ htext hdecides => exact absurd hdecides (hsilent _ htext _)
    | _ => simp_all

end Facts

/-! ### What users read -/

namespace Explanation

/-- An explanation is complete and agrees with the catalog. -/
structure Sound (e : Explanation) : Prop where
  known : ∀ c, e.known? = some c → e.category = c.entry.category ∧ e.title = c.entry.title
  unknown : e.known? = none → e.category = .system ∧ e.title = "Request failed"
  reportable : e.reportable ↔ e.category = .system
  userActionable : e.userActionable ↔ e.category ≠ .system
  complete : e.code ≠ "" ∧ e.title ≠ "" ∧ e.message ≠ "" ∧ e.action ≠ ""
  trimmed : Trimmed e.message

section

variable (e : Explanation) (text : Option String)

@[simp] theorem saying_code : (e.saying text).code = e.code := by cases text <;> rfl

@[simp] theorem saying_action : (e.saying text).action = e.action := by cases text <;> rfl

@[simp] theorem saying_message : (e.saying text).message = text.getD e.message := by
  cases text <;> rfl

@[simp] theorem saying_known? : (e.saying text).known? = e.known? := by
  rw [known?, saying_code, known?]

end

@[simp] theorem known?_ofCode (c : FailureCode) : (ofCode c).known? = some c := c.ofCode?_code

theorem sound_ofCode (c : FailureCode) : (ofCode c).Sound where
  known d hd := by
    obtain rfl := Option.some.inj ((known?_ofCode c).symm.trans hd)
    exact ⟨rfl, rfl⟩
  unknown h := by
    rw [known?_ofCode] at h
    cases h
  reportable := by simp [ofCode]
  userActionable := by simp [ofCode]
  complete := c.entry_ne_empty
  trimmed := c.trimmed_message

variable {e : Explanation}

theorem Sound.withMessage (h : e.Sound) {text : String} (htext : text ≠ "")
    (htrimmed : Trimmed text) : (e.withMessage text).Sound where
  known := h.known
  unknown := h.unknown
  reportable := h.reportable
  userActionable := h.userActionable
  complete := ⟨h.complete.1, h.complete.2.1, htext, h.complete.2.2.2⟩
  trimmed := htrimmed

theorem Sound.saying (h : e.Sound) (f : Facts) : (e.saying f.text?).Sound := by
  cases htext : f.text? with
  | none => exact h
  | some text =>
    have hsays := Facts.text?_eq_some_iff.1 htext
    exact h.withMessage hsays.ne_empty hsays.trimmed

/-- The spelling of the service may stand for the code that it is a spelling of. -/
theorem sound_spelt {code : String} {c : FailureCode} (hcode : code ≠ "")
    (hc : FailureCode.ofCode? code = some c) : Sound { ofCode c with code } where
  known d hd := by
    obtain rfl := Option.some.inj (hc.symm.trans hd)
    exact ⟨rfl, rfl⟩
  unknown h := by
    rw [known?, hc] at h
    cases h
  reportable := (sound_ofCode c).reportable
  userActionable := (sound_ofCode c).userActionable
  complete := ⟨hcode, (sound_ofCode c).complete.2⟩
  trimmed := (sound_ofCode c).trimmed

theorem sound_strange {code : String} (hcode : code ≠ "") (hnone : FailureCode.ofCode? code = none) :
    Sound { ofCode .unknown with code, title := "Request failed" } where
  known d hd := by
    rw [known?, hnone] at hd
    cases hd
  unknown _ := ⟨rfl, rfl⟩
  reportable := (sound_ofCode .unknown).reportable
  userActionable := (sound_ofCode .unknown).userActionable
  complete := ⟨hcode, by simp, (sound_ofCode .unknown).complete.2.2⟩
  trimmed := (sound_ofCode .unknown).trimmed

/-- Message and advice are those of the catalog for the code. -/
structure Catalogued (e : Explanation) : Prop where
  message : e.message = (e.known?.getD .unknown).entry.message
  action : e.action = (e.known?.getD .unknown).entry.action

theorem catalogued_ofCode (c : FailureCode) : (ofCode c).Catalogued := by
  constructor <;> rw [known?_ofCode] <;> rfl

/-- Advice and status come on top of the rest. -/
theorem Sound.advising (h : e.Sound) {action : String} (haction : action ≠ "")
    (status : Option UInt16) : Sound { e with action, status } where
  known := h.known
  unknown := h.unknown
  reportable := h.reportable
  userActionable := h.userActionable
  complete := ⟨h.complete.1, h.complete.2.1, h.complete.2.2.1, haction⟩
  trimmed := h.trimmed

/-- What an explanation has to be for the facts that it is made from. -/
structure Coherent (f : Facts) (e : Explanation) : Prop where
  given : ∀ code, f.code = some code → code ≠ "" → e.code = code
  inferred : (∀ code, f.code = some code → code = "") →
    ∃ c : FailureCode, e.code = c.code ∧ ∀ d, f.Infers d ↔ d = c
  sound : e.Sound
  advised : ∀ action, f.action = some action → ¬ Blank action → e.action = action
  unadvised : (∀ action, f.action = some action → Blank action) →
    e.action = (e.known?.getD .unknown).entry.action
  status : e.status = f.status
  status_ne_zero : e.status ≠ some 0

end Explanation

namespace Facts

open Explanation

variable {f : Facts}

/-- The explanation before any advice of the service. -/
def unadvised (f : Facts) : Explanation :=
  match f.code? with
  | some code => f.explainCode code
  | none => f.infer

def advice? (f : Facts) : Option String := f.action.filter fun a => !(Text.trim a).isEmpty

theorem advice?_eq_some_iff {action : String} :
    f.advice? = some action ↔ f.action = some action ∧ ¬ Blank action := by
  rw [advice?, Option.filter_eq_some_iff, Bool.not_eq_true', ← Bool.not_eq_true,
    String.isEmpty_iff, Text.trim_eq_empty_iff]

theorem advice?_eq_none_iff :
    f.advice? = none ↔ ∀ action, f.action = some action → Blank action := by
  rw [Option.eq_none_iff_forall_ne_some]
  refine forall_congr' fun action => ?_
  rw [Ne, advice?_eq_some_iff, not_and_not_right]

theorem explain_eq (f : Facts) : f.explain =
    { f.unadvised with action := f.advice?.getD f.unadvised.action, status := f.status } := by
  rw [explain, advice?]
  cases f.action.filter fun a => !(Text.trim a).isEmpty <;> rfl

theorem explain_code (f : Facts) : f.explain.code = f.unadvised.code := by
  rw [explain_eq]

theorem explain_known? (f : Facts) : f.explain.known? = f.unadvised.known? :=
  congrArg FailureCode.ofCode? f.explain_code

theorem unadvised_of_code {code : String} (hcode : f.code = some code) (hne : code ≠ "") :
    f.unadvised = f.explainCode code := by
  rw [unadvised, code?_eq_some_iff.2 ⟨hcode, hne⟩]

theorem unadvised_of_no_code (hcode : ∀ code, f.code = some code → code = "") :
    f.unadvised = f.infer := by
  rw [unadvised, code?_eq_none_iff.2 hcode]

/-- A code of the service is kept as it is, and what the service says is shown with it. -/
theorem exists_explainCode (f : Facts) (code : String) :
    ∃ e : Explanation, e.code = code ∧ e.Catalogued ∧ f.explainCode code = e.saying f.text? := by
  unfold explainCode
  split
  next c hc =>
    refine ⟨_, rfl, ?_, rfl⟩
    constructor <;> rw [known?, hc] <;> rfl
  next hc =>
    refine ⟨_, rfl, ?_, rfl⟩
    constructor <;> rw [known?, hc] <;> rfl

theorem explainCode_code (f : Facts) (code : String) : (f.explainCode code).code = code := by
  obtain ⟨e, rfl, -, he⟩ := f.exists_explainCode code
  rw [he, saying_code]

theorem sound_explainCode (f : Facts) {code : String} (hcode : code ≠ "") :
    (f.explainCode code).Sound := by
  rw [explainCode]
  cases hc : FailureCode.ofCode? code with
  | some c => exact (sound_spelt hcode hc).saying f
  | none => exact (sound_strange hcode hc).saying f

theorem sound_infer (f : Facts) : f.infer.Sound := by
  obtain ⟨c, -, hinfer | hinfer⟩ := f.exists_infers <;> rw [hinfer]
  · exact sound_ofCode c
  · exact (sound_ofCode c).saying f

theorem sound_unadvised (f : Facts) : f.unadvised.Sound := by
  rw [unadvised]
  cases hcode : f.code? with
  | some code => exact f.sound_explainCode (code?_eq_some_iff.1 hcode).2
  | none => exact f.sound_infer

theorem sound_explain (f : Facts) : f.explain.Sound := by
  rw [explain_eq]
  refine f.sound_unadvised.advising ?_ f.status
  cases haction : f.advice? with
  | none => exact f.sound_unadvised.complete.2.2.2
  | some action =>
    rintro rfl
    exact (advice?_eq_some_iff.1 haction).2 (by simp [Blank])

/-- Without advice of the service, users are told what the catalog advises. -/
theorem unadvised_action (f : Facts) :
    f.unadvised.action = (f.unadvised.known?.getD .unknown).entry.action := by
  unfold unadvised
  split
  next code _ =>
    obtain ⟨e, -, hcatalog, he⟩ := f.exists_explainCode code
    rw [he, saying_action, saying_known?, hcatalog.action]
  next =>
    obtain ⟨c, -, hinfer | hinfer⟩ := f.exists_infers
    · rw [hinfer, (catalogued_ofCode c).action]
    · rw [hinfer, saying_action, saying_known?, (catalogued_ofCode c).action]

/-- The wording of the message decides the code. -/
def ByWording (f : Facts) : Prop :=
  f.code? = none ∧ f.malformed = false ∧ f.status.bind FailureCode.ofStatus? = none ∧
    ∃ text, f.Says text ∧ ∃ c, MessagePattern.Decides text c

theorem infer_of_not_wording (hcode : f.code? = none) (hmalformed : f.malformed = false)
    (hresponse : f.noResponse = false) (hwording : ¬ f.ByWording) : f.infer =
      (Explanation.ofCode ((f.status.bind FailureCode.ofStatus?).getD .unknown)).saying f.text? := by
  cases hstatus : f.status.bind FailureCode.ofStatus? with
  | some c => exact infer_of_status hmalformed hstatus
  | none =>
    have hsilent : f.text?.bind MessagePattern.find? = none :=
      wording_eq_none_iff.2 fun text htext c hdecides =>
        hwording ⟨hcode, hmalformed, hstatus, text, htext, c, hdecides⟩
    exact infer_of_other hmalformed hstatus hsilent hresponse

/-- What a response says is shown, unless it is its wording that has decided the code. -/
theorem explain_message (hmalformed : f.malformed = false) (hresponse : f.noResponse = false)
    (hwording : ¬ f.ByWording) :
    f.explain.message = f.text?.getD (f.explain.known?.getD .unknown).entry.message := by
  have hunadvised : ∃ e : Explanation, e.Catalogued ∧ f.unadvised = e.saying f.text? := by
    unfold unadvised
    split
    next code _ =>
      obtain ⟨e, -, hcatalog, he⟩ := f.exists_explainCode code
      exact ⟨e, hcatalog, he⟩
    next hcode =>
      exact ⟨_, catalogued_ofCode _, infer_of_not_wording hcode hmalformed hresponse hwording⟩
  obtain ⟨e, hcatalog, he⟩ := hunadvised
  rw [explain_known?, he, saying_known?, ← hcatalog.message, ← saying_message, ← he, explain_eq]

end Facts

namespace FailureSource

theorem statusOf_ne_zero (n : Nat) : statusOf n ≠ some 0 := by
  unfold statusOf
  split
  next hn =>
    intro h
    have hzero := congrArg UInt16.toNat (Option.some.inj h)
    rw [UInt16.toNat_ofNat_of_lt' hn.2] at hzero
    exact hn.1 hzero
  next => exact Option.some_ne_none _ ∘ Eq.symm

theorem status_ne_zero (source : FailureSource) : source.facts.status ≠ some 0 := by
  cases source with
  | fault f =>
    rw [facts]
    split
    next => exact Option.some_ne_none _ ∘ Eq.symm
    next h => exact fun hs => h (Option.some.inj hs)
  | message s => exact Option.some_ne_none _ ∘ Eq.symm
  | value v =>
    cases v with
    | record ms =>
      intro h
      obtain ⟨n, -, hn⟩ := Option.bind_eq_some_iff.1 h
      exact statusOf_ne_zero n hn
    | _ => exact Option.some_ne_none _ ∘ Eq.symm

end FailureSource

end CodeHealth
