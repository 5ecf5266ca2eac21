import CodeHealth.Cache.Key
import CodeHealth.Proofs.Text.Order
import Mathlib

/-! The order of keys. Families come in the order in which they are declared. Within a family the
parts decide, one after the other, and a key whose parts run out comes first; nothing comes before
flags, flags come before numbers, numbers before texts, and texts are ordered by their bytes. The
comparison of keys decides this order, which is total. -/

namespace CodeHealth

/-- What the outcome of comparing `a` with `b` says, in an order `r`. -/
def Compared {α : Type} (r : α → α → Prop) (a b : α) : Ordering → Prop
  | .lt => r a b
  | .eq => a = b
  | .gt => r b a

namespace Compared

variable {α β : Type} {r : α → α → Prop} {s : β → β → Prop} {o o' : Ordering}

theorem nat (m n : ℕ) : Compared (· < ·) m n (compare m n) := by
  cases h : compare m n with
  | lt => exact Nat.compare_eq_lt.1 h
  | eq => exact Nat.compare_eq_eq.1 h
  | gt => exact Nat.compare_eq_gt.1 h

/-- Heads are compared first. -/
theorem cons {a b : α} {as bs : List α} (h : Compared r a b o)
    (hs : Compared (List.Lex r) as bs o') :
    Compared (List.Lex r) (a :: as) (b :: bs) (o.then o') := by
  cases o with
  | lt => exact .rel h
  | gt => exact .rel h
  | eq =>
    obtain rfl : a = b := h
    cases o' with
    | lt => exact .cons hs
    | gt => exact .cons hs
    | eq => exact congrArg (a :: ·) hs

/-- First components are compared first. -/
theorem pair {a b : α} {c d : β} (h : Compared r a b o) (hs : Compared s c d o') :
    Compared (Prod.Lex r s) (a, c) (b, d) (o.then o') := by
  cases o with
  | lt => exact .left _ _ h
  | gt => exact .left _ _ h
  | eq =>
    obtain rfl : a = b := h
    cases o' with
    | lt => exact .right _ hs
    | gt => exact .right _ hs
    | eq => exact congrArg (a, ·) hs

/-- Things may be compared by what stands for them. -/
theorem comap {f : α → β} (hf : f.Injective) {a b : α} (h : Compared s (f a) (f b) o) :
    Compared (InvImage s f) a b o := by
  cases o with
  | lt => exact h
  | gt => exact h
  | eq => exact hf h

theorem trichotomous {cmp : α → α → Ordering} (h : ∀ a b, Compared r a b (cmp a b)) :
    Std.Trichotomous r where
  trichotomous a b hab hba := by
    have hcmp := h a b
    generalize cmp a b = o at hcmp
    cases o with
    | lt => exact absurd hcmp hab
    | eq => exact hcmp
    | gt => exact absurd hcmp hba

section

variable [IsStrictTotalOrder α r] {a b : α}

theorem eq_lt_iff (h : Compared r a b o) : o = .lt ↔ r a b := by
  cases o with
  | lt => exact iff_of_true rfl h
  | eq => exact iff_of_false nofun (h ▸ irrefl a)
  | gt => exact iff_of_false nofun (asymm h)

theorem eq_eq_iff (h : Compared r a b o) : o = .eq ↔ a = b := by
  cases o with
  | lt => exact iff_of_false nofun fun heq => irrefl b (heq ▸ h)
  | eq => exact iff_of_true rfl h
  | gt => exact iff_of_false nofun fun heq => irrefl b (heq ▸ h)

theorem eq_gt_iff (h : Compared r a b o) : o = .gt ↔ r b a := by
  cases o with
  | lt => exact iff_of_false nofun (asymm h)
  | eq => exact iff_of_false nofun (h ▸ irrefl a)
  | gt => exact iff_of_true rfl h

end

end Compared

/-! ### Parts -/

namespace KeyPart

/-- Which of two parts comes first: the kinds in the order in which they are declared, and parts of
one kind by what they hold. -/
inductive Before : KeyPart → KeyPart → Prop
  | kind {p q : KeyPart} : p.ctorIdx < q.ctorIdx → Before p q
  | flag : Before (flag false) (flag true)
  | number {i j : Int64} : i < j → Before (number i) (number j)
  | text {s t : String} : Text.bytes s < Text.bytes t → Before (text s) (text t)

theorem Before.irrefl (p : KeyPart) : ¬ p.Before p := by
  intro h
  cases h with
  | kind h => exact Nat.lt_irrefl _ h
  | number h => exact Int64.lt_irrefl h
  | text h => exact List.lt_irrefl _ h

theorem Before.trans : ∀ {p q r : KeyPart}, p.Before q → q.Before r → p.Before r
  | _, _, _, .kind h, .kind h' => .kind (h.trans h')
  | _, _, _, .kind h, .flag => .kind h
  | _, _, _, .kind h, .number _ => .kind h
  | _, _, _, .kind h, .text _ => .kind h
  | _, _, _, .flag, .kind h => .kind h
  | _, _, _, .number _, .kind h => .kind h
  | _, _, _, .text _, .kind h => .kind h
  | _, _, _, .number h, .number h' => .number (Int64.lt_trans h h')
  | _, _, _, .text h, .text h' => .text (List.lt_trans h h')

theorem compared_order : ∀ p q : KeyPart, Compared Before p q (order p q)
  | null, null => rfl
  | flag a, flag b => by
    cases a <;> cases b
    · rfl
    · exact .flag
    · exact .flag
    · rfl
  | number i, number j => by
    rw [order]
    cases h : compare i.toInt j.toInt with
    | lt => exact .number (Int64.lt_iff_toInt_lt.2 (Int.compare_eq_lt.1 h))
    | eq => exact congrArg number (Int64.toInt_inj.1 (Int.compare_eq_eq.1 h))
    | gt => exact .number (Int64.lt_iff_toInt_lt.2 (Int.compare_eq_gt.1 h))
  | text s, text t => by
    rw [order]
    cases h : Text.order s t with
    | lt => exact .text (Text.order_eq_lt_iff.1 h)
    | eq => exact congrArg text (Text.eq_of_order_eq h)
    | gt => exact .text (Text.order_eq_gt_iff.1 h)
  | null, flag _ | null, number _ | null, text _ | flag _, number _ | flag _, text _
  | number _, text _ => .kind (by simp [KeyPart.ctorIdx])
  | flag _, null | number _, null | text _, null | number _, flag _ | text _, flag _
  | text _, number _ => .kind (by simp [KeyPart.ctorIdx])

instance : IsStrictTotalOrder KeyPart Before where
  toTrichotomous := Compared.trichotomous compared_order
  irrefl := Before.irrefl
  trans _ _ _ := Before.trans

instance : IsStrictTotalOrder (List KeyPart) (List.Lex Before) :=
  { isStrictWeakOrder_of_isOrderConnected with }

theorem compared_orderAll : ∀ ps qs : List KeyPart,
    Compared (List.Lex Before) ps qs (orderAll ps qs)
  | [], [] => rfl
  | [], _ :: _ => .nil
  | _ :: _, [] => .nil
  | p :: ps, q :: qs => (compared_order p q).cons (compared_orderAll ps qs)

end KeyPart

/-! ### Keys -/

/-- The list of all families has them in the order in which they are declared. -/
theorem Family.rank_eq_ctorIdx (f : Family) : f.rank = f.ctorIdx := by
  cases f <;> rfl

theorem Family.ctorIdx_injective : Function.Injective Family.ctorIdx :=
  Function.LeftInverse.injective Family.ofNat_ctorIdx

namespace Key

/-- The place of the family, and the parts. -/
def place (k : Key) : ℕ × List KeyPart := (k.family.ctorIdx, k.parts)

theorem place_injective : Function.Injective place := by
  intro k k' h
  obtain ⟨hfamily, hparts⟩ := Prod.mk.inj h
  cases k
  cases k'
  exact congrArg₂ mk (Family.ctorIdx_injective hfamily) hparts

/-- Which of two keys comes first: the family decides, and after it the parts, one by one. -/
def Before : Key → Key → Prop := InvImage (Prod.Lex (· < ·) (List.Lex KeyPart.Before)) place

theorem compared_order (k k' : Key) : Compared Before k k' (order k k') := by
  rw [order, Family.rank_eq_ctorIdx, Family.rank_eq_ctorIdx]
  exact ((Compared.nat _ _).pair (KeyPart.compared_orderAll _ _)).comap place_injective

instance : IsStrictTotalOrder (ℕ × List KeyPart) (Prod.Lex (· < ·) (List.Lex KeyPart.Before)) where

instance : IsStrictTotalOrder Key Before :=
  RelEmbedding.isStrictTotalOrder
    (⟨⟨place, place_injective⟩, Iff.rfl⟩ : Before ↪r Prod.Lex (· < ·) (List.Lex KeyPart.Before))

end Key

end CodeHealth
