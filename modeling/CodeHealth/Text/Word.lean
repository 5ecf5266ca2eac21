import CodeHealth.Text.Word.Ranges

/-! Word characters and the edges of words. -/
namespace CodeHealth.Text.Word

/-- Whether a word may contain `c`. -/
def isWordChar (c : Char) : Bool :=
  if c.toNat < 0x80 then c.isAlphanum || c == '_'
  else ranges.any fun r => r.1 ≤ c.toNat && c.toNat ≤ r.2

/-- A word begins or ends between `left` and `right`; `none` is an end of the text. -/
def isEdge (left right : Option Char) : Bool :=
  left.any isWordChar != right.any isWordChar

end CodeHealth.Text.Word
