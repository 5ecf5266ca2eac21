import CodeHealth.Number.Digits
import CodeHealth.Text.Bytes
import CodeHealth.Text.Percent
import Mathlib

/-! Percent coding can be undone: the bytes of a text are read off its coded form, so no two texts
have the same one. A coded form has no other characters than unreserved ones and those of
escapes. -/

namespace CodeHealth.Text.Percent

open Number (hexValue)

/-- The bytes that a coded form stands for. A percent sign has two digits behind it. -/
def decodeBytes : List Char → Option (List UInt8)
  | [] => some []
  | '%' :: a :: b :: r => do
    let high ← hexValue a
    let low ← hexValue b
    (decodeBytes r).map (UInt8.ofNat (16 * high + low) :: ·)
  | '%' :: _ => none
  | c :: r => (decodeBytes r).map (UInt8.ofNat c.toNat :: ·)

theorem decodeBytes_percent (a b : Char) (r : List Char) :
    decodeBytes ('%' :: a :: b :: r) = (do
      let high ← hexValue a
      let low ← hexValue b
      (decodeBytes r).map (UInt8.ofNat (16 * high + low) :: ·)) := by
  rw [decodeBytes]

theorem decodeBytes_cons {c : Char} (hc : c ≠ '%') (r : List Char) :
    decodeBytes (c :: r) = (decodeBytes r).map (UInt8.ofNat c.toNat :: ·) := by
  rw [decodeBytes]
  · rintro a b s rfl
    contradiction
  · exact hc

theorem hexValue_hexDigit {n : ℕ} (hn : n < 16) : hexValue (hexDigit n) = some n := by
  interval_cases n <;> rfl

/-- An unreserved byte is the number of its character, and this is not a percent sign. -/
theorem toNat_of_isUnreserved {b : UInt8} (hb : isUnreserved b) :
    (Char.ofNat b.toNat).toNat = b.toNat ∧ Char.ofNat b.toNat ≠ '%' := by
  have hsmall : b.toNat < 256 := b.toNat_lt
  have hvalid : b.toNat.isValidChar := .inl (by omega)
  have hnat : (Char.ofNat b.toNat).toNat = b.toNat := by rw [Char.toNat_ofNat, if_pos hvalid]
  refine ⟨hnat, fun hpercent => ?_⟩
  have hb37 : b = 37 := UInt8.toNat_inj.1 (by rw [← hnat, hpercent]; rfl)
  subst hb37
  revert hb
  decide

theorem decodeBytes_encodeByte (b : UInt8) (r : List Char) :
    decodeBytes (encodeByte b ++ r) = (decodeBytes r).map (b :: ·) := by
  unfold encodeByte
  split_ifs with hb
  · obtain ⟨hnat, hne⟩ := toNat_of_isUnreserved hb
    rw [List.singleton_append, decodeBytes_cons hne, hnat, UInt8.ofNat_toNat]
  · have hsmall : b.toNat < 256 := b.toNat_lt
    have hhalves : 16 * (b.toNat / 16) + b.toNat % 16 = b.toNat := by omega
    rw [List.cons_append, List.cons_append, List.singleton_append, decodeBytes_percent,
      hexValue_hexDigit (by omega), hexValue_hexDigit (by omega)]
    simp only [Option.bind_eq_bind, Option.bind_some, hhalves, UInt8.ofNat_toNat]

theorem decodeBytes_flatMap (bs : List UInt8) :
    decodeBytes (bs.flatMap encodeByte) = some bs := by
  induction bs with
  | nil => rfl
  | cons b bs ih => rw [List.flatMap_cons, decodeBytes_encodeByte, ih, Option.map_some]

theorem encode_injective : Function.Injective encode := by
  intro s t h
  have hchars : (bytes s).flatMap encodeByte = (bytes t).flatMap encodeByte :=
    String.ofList_injective h
  have hbytes := congrArg decodeBytes hchars
  rw [decodeBytes_flatMap, decodeBytes_flatMap] at hbytes
  exact bytes_injective (Option.some.inj hbytes)

/-! ### Coded forms -/

/-- The text that a coded form stands for, if its bytes are those of a text. -/
def decode (cs : List Char) : Option String :=
  (decodeBytes cs).bind fun bs => String.fromUTF8? ⟨bs.toArray⟩

theorem fromUTF8?_bytes (s : String) : String.fromUTF8? ⟨(bytes s).toArray⟩ = some s := by
  have hbytes : (⟨(bytes s).toArray⟩ : ByteArray) = s.toByteArray := rfl
  rw [hbytes, String.fromUTF8?, dif_pos s.isValidUTF8]
  rfl

theorem decode_encode (s : String) : decode (encode s).toList = some s := by
  have hcoded : (encode s).toList = (bytes s).flatMap encodeByte := String.toList_ofList
  rw [decode, hcoded, decodeBytes_flatMap, Option.bind_some, fromUTF8?_bytes]

/-- The characters that stand for themselves. -/
def unreserved : List Char :=
  "ABCDEFGHIJKLMNOPQRSTUVWXYZabcdefghijklmnopqrstuvwxyz0123456789-._~".toList

def hexDigits : List Char := "0123456789ABCDEF".toList

theorem hexDigits_subset : hexDigits ⊆ unreserved := by decide

/-- A text of unreserved characters, escapes of bytes and the separators in `marks`. -/
inductive Coded (marks : List Char) : List Char → Prop where
  | nil : Coded marks []
  | plain {c : Char} {cs : List Char} : c ∈ unreserved → Coded marks cs → Coded marks (c :: cs)
  | escape {a b : Char} {cs : List Char} : a ∈ hexDigits → b ∈ hexDigits → Coded marks cs →
    Coded marks ('%' :: a :: b :: cs)
  | mark {c : Char} {cs : List Char} : c ∈ marks → Coded marks cs → Coded marks (c :: cs)

namespace Coded

variable {marks : List Char}

theorem append {cs ds : List Char} (hcs : Coded marks cs) (hds : Coded marks ds) :
    Coded marks (cs ++ ds) := by
  induction hcs with
  | nil => exact hds
  | plain hc _ ih => exact .plain hc ih
  | escape ha hb _ ih => exact .escape ha hb ih
  | mark hc _ ih => exact .mark hc ih

theorem intercalate {m : Char} (hm : m ∈ marks) {css : List (List Char)}
    (hcss : ∀ cs ∈ css, Coded marks cs) : Coded marks ([m].intercalate css) := by
  induction css with
  | nil => exact .nil
  | cons cs css ih =>
    obtain ⟨hfirst, hrest⟩ := List.forall_mem_cons.1 hcss
    cases css with
    | nil => simpa using hfirst
    | cons ds css =>
      rw [List.intercalate_cons_cons]
      exact (hfirst.append (.mark hm .nil)).append (ih hrest)

theorem not_mem {c : Char} {cs : List Char} (hcs : Coded marks cs) (hpercent : c ≠ '%')
    (hplain : c ∉ unreserved) (hmark : c ∉ marks) : c ∉ cs := by
  have hdigit : c ∉ hexDigits := fun hmem => hplain (hexDigits_subset hmem)
  have hcons {d : Char} {ds kind : List Char} (hd : d ∈ kind) (hc : c ∉ kind) (hds : c ∉ ds) :
      c ∉ d :: ds :=
    List.not_mem_cons_of_ne_of_not_mem (ne_of_mem_of_not_mem hd hc).symm hds
  induction hcs with
  | nil => exact List.not_mem_nil
  | plain hd _ ih => exact hcons hd hplain ih
  | escape ha hb _ ih =>
    have hdigits := hcons ha hdigit (hcons hb hdigit ih)
    exact List.not_mem_cons_of_ne_of_not_mem hpercent hdigits
  | mark hd _ ih => exact hcons hd hmark ih

end Coded

theorem mem_unreserved_of_isUnreserved {b : UInt8} (hb : isUnreserved b) :
    Char.ofNat b.toNat ∈ unreserved := by
  have hall : ∀ n < 256, isUnreserved (UInt8.ofNat n) → Char.ofNat n ∈ unreserved := by
    decide +kernel
  exact hall b.toNat b.toNat_lt (by rwa [UInt8.ofNat_toNat])

theorem hexDigit_mem_hexDigits {n : ℕ} (hn : n < 16) : hexDigit n ∈ hexDigits := by
  interval_cases n <;> decide

theorem coded_encodeByte (marks : List Char) (b : UInt8) : Coded marks (encodeByte b) := by
  unfold encodeByte
  split_ifs with hb
  · exact .plain (mem_unreserved_of_isUnreserved hb) .nil
  · have hsmall : b.toNat < 256 := b.toNat_lt
    exact .escape (hexDigit_mem_hexDigits (by omega)) (hexDigit_mem_hexDigits (by omega)) .nil

theorem coded_encode (marks : List Char) (s : String) : Coded marks (encode s).toList := by
  rw [encode, String.toList_ofList]
  induction s.toByteArray.data.toList with
  | nil => exact .nil
  | cons b bs ih => exact (coded_encodeByte marks b).append ih

/-- A separator does not occur in a coded form. -/
theorem not_mem_encode {c : Char} (hpercent : c ≠ '%') (hplain : c ∉ unreserved) (s : String) :
    c ∉ (encode s).toList :=
  (coded_encode [] s).not_mem hpercent hplain List.not_mem_nil

end CodeHealth.Text.Percent
