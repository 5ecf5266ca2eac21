import CodeHealth.Json.Shape
import CodeHealth.Text.Blank

/-! Faults: what a failed call to the service leaves behind. A refusal is read from the body of
the response, flat or nested under `detail`; a body that cannot be read gives a fault of its own
kind; and without any response there is a fault with status zero. -/
namespace CodeHealth

/-- Where a call broke down. -/
inductive FaultKind where
  | response
  | network
  | malformed
  deriving DecidableEq

structure Fault where
  kind : FaultKind
  status : UInt16
  message : String
  detail : Option Json
  errorCode : Option String
  action : Option String

/-- The body of a refusal. -/
structure Refusal where
  detail : Option Json
  errorCode : Option String
  action : Option String
  message : Option String

namespace Refusal

def empty : Refusal := ⟨none, none, none, none⟩

/-- The detail is kept as it is; it may be nested one level less than a whole text. -/
def shape : Shape Refusal :=
  .record
    (.cons "detail" (.option (.any (Json.Tree.nestingLimit - 1))) (some none) <|
    .cons "error_code" (.option .text) (some none) <|
    .cons "action" (.option .text) (some none) <|
    .cons "message" (.option .text) (some none) .nil)
    { fields := fun v => (v.detail, v.errorCode, v.action, v.message, ())
      make := fun (a, b, c, d, ()) => ⟨a, b, c, d⟩
      make_fields := fun _ => rfl
      fields_make := fun _ => rfl }

/-- The text in one item of a list of validation messages. -/
def itemText : Json → Option String
  | .text s => some s
  | .record ms => (ms.lookup "msg").bind Json.text?
  | _ => none

/-- The text that a detail carries. -/
def detailText : Json → Option String
  | .text s => some s
  | .list items =>
    let texts := items.filterMap itemText
    if texts.isEmpty then none else some ("; ".intercalate texts)
  | .record ms => (ms.lookup "message" <|> ms.lookup "msg").bind Json.text?
  | .null => none
  | v => some v.compact

def nestedText (r : Refusal) (name : String) : Option String :=
  r.detail.bind fun d => (d.get? name).bind Json.text?

end Refusal

namespace Fault

def ofStatus (status : UInt16) (message : String) : Fault :=
  ⟨if status = 0 then .network else .response, status, message, none, none, none⟩

/-- No response came. -/
def network (message : String) : Fault := ofStatus 0 message

def unreadablePrefix : String := "Failed to parse response"

/-- A response came whose body cannot be read. -/
def unreadable (status : UInt16) (why : String) : Fault :=
  { ofStatus status (unreadablePrefix ++ ": " ++ why) with kind := .malformed }

/-- The body of a request could not be written. -/
def unwritable (why : String) : Fault :=
  { ofStatus 0 ("Failed to serialize request: " ++ why) with kind := .malformed }

def isNetwork (f : Fault) : Bool := f.kind == .network

def isMalformed (f : Fault) : Bool := f.kind == .malformed

/-- The message for a body that offers none: its beginning, unless it looks like a record. -/
def fallbackMessage (status : UInt16) (body : String) : String :=
  let text := Text.trim body
  if text.isEmpty || text.toList.head? == some '\x7b' then "HTTP " ++ toString status.toNat
  else String.ofList (text.toList.take 200)

/-- The fault of a response whose status is not a success. -/
def ofResponse (status : UInt16) (body : String) : Fault :=
  let r := (Refusal.shape.read body).getD .empty
  { kind := .response
    status
    message := ((r.detail.bind Refusal.detailText) <|> r.message).getD (fallbackMessage status body)
    detail := r.detail
    errorCode := r.errorCode <|> r.nestedText "error_code"
    action := r.action <|> r.nestedText "action" }

def display (f : Fault) : String := "HTTP " ++ toString f.status.toNat ++ ": " ++ f.message

end Fault

end CodeHealth
