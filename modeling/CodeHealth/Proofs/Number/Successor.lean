import Mathlib

/-! Numbers of 32 bits, one after the other. Each has a next one but the last. -/

namespace CodeHealth.Number

open Std.PRange (succ?)

variable {n m : UInt32}

theorem succ?_eq_none_iff : succ? n = none ↔ n.toNat + 1 = 2 ^ 32 := by
  obtain ⟨n⟩ := n
  rw [UInt32.succ?_ofBitVec, Option.map_eq_map, Option.map_eq_none_iff, BitVec.succ?_eq_none,
    UInt32.toNat_ofBitVec]
  omega

theorem succ?_eq_some_iff : succ? n = some m ↔ m.toNat = n.toNat + 1 := by
  have hlt := m.toNat_lt
  obtain ⟨n⟩ := n
  obtain ⟨m⟩ := m
  rw [UInt32.succ?_ofBitVec, Option.map_eq_map, Option.map_eq_some_iff]
  simp only [UInt32.ofBitVec.injEq, exists_eq_right, BitVec.succ?_eq_some,
    UInt32.toNat_ofBitVec] at hlt ⊢
  omega

theorem toNat_add_one_of_lt (h : n.toNat + 1 < 2 ^ 32) : (n + 1).toNat = n.toNat + 1 :=
  (UInt32.toNat_add n 1).trans (Nat.mod_eq_of_lt h)

theorem succ?_of_lt (h : n.toNat + 1 < 2 ^ 32) : succ? n = some (n + 1) :=
  succ?_eq_some_iff.2 (toNat_add_one_of_lt h)

end CodeHealth.Number
