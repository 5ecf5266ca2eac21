import CodeHealth.Text.Casing

/-! Enumerations with one fixed name per value, and how users may spell them. -/
namespace CodeHealth

/-- A finite type whose values have distinct names. -/
class Label (α : Type) where
  all : List α
  name : α → String
  mem_all : ∀ a, a ∈ all
  name_injective : ∀ a b, name a = name b → a = b

namespace Label

/-- The value of that name. -/
def find? {α : Type} [Label α] (s : String) : Option α := all.find? fun a => name a == s

theorem find?_name {α : Type} [Label α] (a : α) : find? (name a) = some a := by
  unfold find?
  cases h : (all : List α).find? fun b => name b == name a with
  | none => exact absurd (List.find?_eq_none.1 h a (mem_all a)) (by simp)
  | some b => rw [name_injective b a (by simpa using List.find?_some h)]

end Label

/-- A word that none of the values of an enumeration goes by, in the form it was compared in. -/
structure UnknownWord where
  kind : String
  word : String
  hint : String
  deriving DecidableEq

def UnknownWord.message (e : UnknownWord) : String :=
  "unknown " ++ e.kind ++ " '" ++ e.word ++ "'" ++ e.hint

/-- How users spell the values of an enumeration: in any case, by name or by synonym. -/
class Spelling (α : Type) extends Label α where
  kind : String
  hint : String := ""
  adjust : Char → Char := id
  synonyms : List (String × α) := []

def Spelling.read {α : Type} [Spelling α] (s : String) : Except UnknownWord α :=
  let word := (Text.lower s).map (adjust α)
  match (Label.find? word : Option α) <|> synonyms.lookup word with
  | some a => .ok a
  | none => .error ⟨kind α, word, hint α⟩

end CodeHealth
