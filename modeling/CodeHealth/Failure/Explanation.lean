import CodeHealth.Failure.Fault
import CodeHealth.Failure.MessagePattern

/-! Explanations: what users are told about a failure. A code given by the service always stands;
then an unreadable body, the status, the wording of the message and the lack of any response
decide, in this order. Text of the service replaces the catalog's sentence where there is any. -/
namespace CodeHealth

/-- Anything that may be explained. -/
inductive FailureSource where
  | fault (f : Fault)
  | message (text : String)
  | value (v : Json)

/-- What a source says about the failure. -/
structure Facts where
  status : Option UInt16 := none
  message : Option String := none
  code : Option String := none
  action : Option String := none
  noResponse : Bool := false
  malformed : Bool := false

namespace FailureSource

/-- The first of the named members that is a text. -/
def textAt (v : Json) (names : List String) : Option String :=
  names.findSome? fun n => (v.get? n).bind Json.text?

/-- A whole number that fits an unsigned word. -/
def natural? : Json → Option Nat
  | .whole i => if 0 ≤ i then some i.toNat else none
  | _ => none

def statusOf (n : Nat) : Option UInt16 :=
  if n ≠ 0 ∧ n < UInt16.size then some (UInt16.ofNat n) else none

def facts : FailureSource → Facts
  | .fault f => {
      status := if f.status = 0 then none else some f.status
      message := some f.message
      code := f.errorCode
      action := f.action
      noResponse := f.isNetwork
      malformed := f.isMalformed }
  | .message s => { message := some s }
  | .value v =>
    match v with
    | .text s => { message := some s }
    | .record _ => {
        status := (["status", "status_code"].findSome? fun n => (v.get? n).bind natural?).bind statusOf
        message := textAt v ["message", "detail", "error"]
        code := textAt v ["error_code", "code"]
        action := textAt v ["action"] }
    | _ => {}

/-- A failure under the contexts in which it was met, the innermost first. A fault at the root is
what counts; any other failure is told from the outside in. -/
def ofChain (root : Fault ⊕ String) (contexts : List String) : FailureSource :=
  match root with
  | .inl f => .fault f
  | .inr s => .message (": ".intercalate (contexts.reverse ++ [s]))

end FailureSource

structure Explanation where
  code : String
  category : Category
  title : String
  message : String
  action : String
  status : Option UInt16
  userActionable : Bool
  reportable : Bool
  deriving DecidableEq

/-- A short notice for the user. -/
structure Toast where
  title : String
  description : String
  action : Option String
  code : String
  deriving DecidableEq

namespace Explanation

def ofCode (c : FailureCode) : Explanation :=
  let e := c.entry
  let system := e.category == .system
  ⟨e.code, e.category, e.title, e.message, e.action, none, !system, system⟩

def withMessage (e : Explanation) (message : String) : Explanation := { e with message }

/-- The text of the service in place of the catalog's sentence. -/
def saying (e : Explanation) : Option String → Explanation
  | some text => e.withMessage text
  | none => e

/-- The code in the catalog, if it is known there. -/
def known? (e : Explanation) : Option FailureCode := FailureCode.ofCode? e.code

def display (e : Explanation) : String := e.title ++ ": " ++ e.message ++ " [" ++ e.code ++ "]"

def toast (e : Explanation) : Toast where
  title :=
    if e.category = .network then "You appear to be offline"
    else if e.category = .authentication ∧
        (e.known? = some .sessionExpired ∨ e.known? = some .unauthorized) then
      "Please sign in again"
    else e.title
  description := e.message
  action := if e.action.isEmpty then none else some e.action
  code := e.code

end Explanation

namespace Facts

/-- Text of the service that is worth showing: not blank, and not the bare status. -/
def text? (f : Facts) : Option String :=
  (f.message.map Text.trim).filter fun m => !m.isEmpty && !"HTTP ".toList.isPrefixOf m.toList

def code? (f : Facts) : Option String := f.code.filter fun c => !c.isEmpty

/-- An explanation under the code that the service gave, known or not. -/
def explainCode (f : Facts) (code : String) : Explanation :=
  match FailureCode.ofCode? code with
  | some c => { Explanation.ofCode c with code }.saying f.text?
  | none => { Explanation.ofCode .unknown with code, title := "Request failed" }.saying f.text?

/-- An explanation where the service gave no code. -/
def infer (f : Facts) : Explanation :=
  if f.malformed then .ofCode .malformedPayload
  else match f.status.bind FailureCode.ofStatus? with
  | some c => (Explanation.ofCode c).saying f.text?
  | none =>
    match f.text?.bind MessagePattern.find? with
    | some c => .ofCode c
    | none =>
      if f.noResponse then .ofCode .networkOffline
      else (Explanation.ofCode .unknown).saying f.text?

def explain (f : Facts) : Explanation :=
  let e := match f.code? with
    | some code => f.explainCode code
    | none => f.infer
  let action := match f.action.filter fun a => !(Text.trim a).isEmpty with
    | some a => a
    | none => e.action
  { e with action, status := f.status }

end Facts

def explain (source : FailureSource) : Explanation := source.facts.explain

end CodeHealth
