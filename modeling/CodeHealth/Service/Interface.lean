import CodeHealth.Service.Change
import CodeHealth.Service.Query

/-! The interface of the service as a whole: all that can be asked of it. Several fixes can be
approved or rejected at once, and any such batch may have a reason. -/
namespace CodeHealth

inductive BatchAction where
  | approve
  | reject
  deriving DecidableEq

instance : Label BatchAction where
  all := [.approve, .reject]
  name
    | .approve => "approve"
    | .reject => "reject"
  mem_all a := by cases a <;> simp
  name_injective a b h := by cases a <;> cases b <;> simp_all

/-- The same for several fixes at once. -/
structure Batch where
  ids : List String
  action : BatchAction
  reason : Option String
  deriving DecidableEq

def Batch.call (b : Batch) : Call BatchResult where
  method := .post
  path := "/fixes/batch"
  body := some (.record (("fix_ids", Change.texts b.ids) ::
    ("action", .text (Label.name b.action)) :: Change.reasonMember b.reason))
  answer := BatchResult.shape

theorem Change.call_approveAll (ids : List String) :
    (approveAll ids).call = Batch.call ⟨ids, .approve, none⟩ := rfl

theorem Change.call_rejectAll (ids : List String) (reason : Option String) :
    (rejectAll ids reason).call = Batch.call ⟨ids, .reject, reason⟩ := rfl

/-- Anything that can be asked of the service. -/
inductive Asking where
  | query (q : Query)
  | change (x : Change)
  | batch (b : Batch)
  deriving DecidableEq

namespace Asking

abbrev Answer : Asking → Type
  | query q => q.Answer
  | change x => x.Answer
  | batch _ => BatchResult

def call : (a : Asking) → Call a.Answer
  | query q => q.call
  | change x => x.call
  | batch b => b.call

end Asking

end CodeHealth
