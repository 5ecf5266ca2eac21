import CodeHealth.Json.Shape

/-! Plans, subscriptions, usage against the limits of a plan, and invoices. -/
namespace CodeHealth

inductive Plan where
  | free
  | pro
  | enterprise
  deriving DecidableEq

namespace Plan

instance : Spelling Plan where
  all := [free, pro, enterprise]
  name
    | free => "free"
    | pro => "pro"
    | enterprise => "enterprise"
  mem_all a := by cases a <;> simp
  name_injective a b h := by cases a <;> cases b <;> simp_all
  kind := "plan"

def shape : Shape Plan := .choice inferInstance

end Plan

inductive SubscriptionStatus where
  | active
  | trialing
  | pastDue
  | canceled
  | incomplete
  deriving DecidableEq

namespace SubscriptionStatus

instance : Label SubscriptionStatus where
  all := [active, trialing, pastDue, canceled, incomplete]
  name
    | active => "active"
    | trialing => "trialing"
    | pastDue => "past_due"
    | canceled => "canceled"
    | incomplete => "incomplete"
  mem_all a := by cases a <;> simp
  name_injective a b h := by cases a <;> cases b <;> simp_all

def shape : Shape SubscriptionStatus := .choice inferInstance

def title : SubscriptionStatus → String
  | active => "Active"
  | trialing => "Trialing"
  | pastDue => "PastDue"
  | canceled => "Canceled"
  | incomplete => "Incomplete"

end SubscriptionStatus

structure Subscription where
  tier : Plan
  status : SubscriptionStatus
  seats : UInt32
  currentPeriodEnd : Option Instant
  cancelAtPeriodEnd : Bool
  deriving DecidableEq

namespace Subscription

def shape : Shape Subscription :=
  .record
    (.cons "tier" Plan.shape (some .free) <|
    .cons "status" SubscriptionStatus.shape (some .active) <|
    .cons "seats" .uint32 (some 0) <|
    .cons "current_period_end" (.option .instant) (some none) <|
    .cons "cancel_at_period_end" .flag (some false) .nil)
    { fields := fun v => (v.tier, v.status, v.seats, v.currentPeriodEnd, v.cancelAtPeriodEnd, ())
      make := fun (a, b, c, d, e, ()) => ⟨a, b, c, d, e⟩
      make_fields := fun _ => rfl
      fields_make := fun _ => rfl }

def isPaid (s : Subscription) : Bool :=
  s.tier != .free && (s.status == .active || s.status == .trialing)

end Subscription

/-- Usage against the limits of a plan; no limit means unlimited. -/
structure Usage where
  reposUsed : UInt32
  reposLimit : Option UInt32
  analysesThisMonth : UInt32
  analysesLimit : Option UInt32
  seatsUsed : UInt32
  seatsLimit : Option UInt32
  deriving DecidableEq

namespace Usage

def shape : Shape Usage :=
  .record
    (.cons "repos_used" .uint32 (some 0) <|
    .cons "repos_limit" (.option .uint32) (some none) <|
    .cons "analyses_this_month" .uint32 (some 0) <|
    .cons "analyses_limit" (.option .uint32) (some none) <|
    .cons "seats_used" .uint32 (some 0) <|
    .cons "seats_limit" (.option .uint32) (some none) .nil)
    { fields := fun v => (v.reposUsed, v.reposLimit, v.analysesThisMonth, v.analysesLimit,
        v.seatsUsed, v.seatsLimit, ())
      make := fun (a, b, c, d, e, f, ()) => ⟨a, b, c, d, e, f⟩
      make_fields := fun _ => rfl
      fields_make := fun _ => rfl }

def remainingAnalyses (u : Usage) : Option Nat :=
  u.analysesLimit.map fun limit => limit.toNat - u.analysesThisMonth.toNat

def atRepoLimit (u : Usage) : Bool := u.reposLimit.any fun limit => limit ≤ u.reposUsed

end Usage

structure Invoice where
  id : String
  number : Option String
  amountCents : Int64
  currency : String
  status : String
  createdAt : Option Instant
  pdfUrl : Option String
  deriving DecidableEq

namespace Invoice

def shape : Shape Invoice :=
  .record
    (.cons "id" .text none <|
    .cons "number" (.option .text) (some none) <|
    .cons "amount_cents" .int64 none <|
    .cons "currency" .text (some "usd") <|
    .cons "status" .text (some "") <|
    .cons "created_at" (.option .instant) (some none) <|
    .cons "pdf_url" (.option .text) (some none) .nil)
    { fields := fun v =>
        (v.id, v.number, v.amountCents, v.currency, v.status, v.createdAt, v.pdfUrl, ())
      make := fun (a, b, c, d, e, f, g, ()) => ⟨a, b, c, d, e, f, g⟩
      make_fields := fun _ => rfl
      fields_make := fun _ => rfl }

/-- The amount with a sign only where it is negative, two places, and the currency in capitals. -/
def amount (v : Invoice) : String :=
  let cents := v.amountCents.toInt.natAbs
  (if v.amountCents < 0 then "-" else "") ++ "$" ++ toString (cents / 100) ++ "." ++
    (if cents % 100 < 10 then "0" else "") ++ toString (cents % 100) ++ " " ++
    Text.upper v.currency

end Invoice

/-- A page elsewhere that the user is sent to. -/
structure Redirect where
  url : String
  deriving DecidableEq

def Redirect.shape : Shape Redirect :=
  .record (.cons "url" .text none .nil)
    { fields := fun v => (v.url, ())
      make := fun (a, ()) => ⟨a⟩
      make_fields := fun _ => rfl
      fields_make := fun _ => rfl }

end CodeHealth
