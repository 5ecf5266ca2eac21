/-! The order of texts by their UTF-8 bytes. -/
namespace CodeHealth.Text

def bytes (s : String) : List UInt8 := s.toByteArray.data.toList

theorem bytes_injective {s t : String} (h : bytes s = bytes t) : s = t := by
  have : s.toByteArray = t.toByteArray := by
    cases hs : s.toByteArray
    cases ht : t.toByteArray
    simp_all [bytes, Array.toList_inj]
  exact String.toByteArray_inj.1 this

def compareBytes : List UInt8 → List UInt8 → Ordering
  | [], [] => .eq
  | [], _ :: _ => .lt
  | _ :: _, [] => .gt
  | a :: as, b :: bs => (compare a.toNat b.toNat).then (compareBytes as bs)

/-- Texts in ascending order of their UTF-8 bytes. -/
def order (s t : String) : Ordering := compareBytes (bytes s) (bytes t)

def precedes (s t : String) : Bool := order s t == .lt

end CodeHealth.Text
