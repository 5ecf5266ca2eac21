import CodeHealth.Text.Bytes
import Mathlib

/-! The order of texts is the lexicographic order of their bytes, in which bytes count as numbers
and a text that has run out comes first. -/

namespace CodeHealth.Text

theorem compareBytes_eq_lt_iff : ∀ {as bs : List UInt8}, compareBytes as bs = .lt ↔ as < bs
  | [], [] => by simp [compareBytes]
  | [], _ :: _ => by simp [compareBytes]
  | _ :: _, [] => by simp [compareBytes]
  | a :: as, b :: bs => by
    rw [compareBytes, Ordering.then_eq_lt, Nat.compare_eq_lt, Nat.compare_eq_eq,
      compareBytes_eq_lt_iff, List.cons_lt_cons_iff, UInt8.toNat_inj, UInt8.lt_iff_toNat_lt]

theorem compareBytes_swap : ∀ as bs : List UInt8, (compareBytes as bs).swap = compareBytes bs as
  | [], [] => rfl
  | [], _ :: _ => rfl
  | _ :: _, [] => rfl
  | a :: as, b :: bs => by
    rw [compareBytes, compareBytes, Ordering.swap_then, Nat.compare_swap, compareBytes_swap as bs]

theorem eq_of_compareBytes_eq : ∀ {as bs : List UInt8}, compareBytes as bs = .eq → as = bs
  | [], [], _ => rfl
  | [], _ :: _, h => nomatch h
  | _ :: _, [], h => nomatch h
  | a :: as, b :: bs, h => by
    obtain ⟨hab, hrest⟩ := Ordering.then_eq_eq.1 h
    have hab : a = b := UInt8.toNat_inj.1 (Nat.compare_eq_eq.1 hab)
    rw [hab, eq_of_compareBytes_eq hrest]

theorem eq_of_order_eq {s t : String} (h : order s t = .eq) : s = t :=
  bytes_injective (eq_of_compareBytes_eq h)

theorem order_eq_lt_iff {s t : String} : order s t = .lt ↔ bytes s < bytes t :=
  compareBytes_eq_lt_iff

theorem order_eq_gt_iff {s t : String} : order s t = .gt ↔ bytes t < bytes s := by
  rw [order, ← compareBytes_swap, Ordering.swap_eq_gt, compareBytes_eq_lt_iff]

end CodeHealth.Text
