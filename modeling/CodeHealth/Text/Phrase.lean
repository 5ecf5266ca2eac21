import CodeHealth.Text.Casing
import CodeHealth.Text.Word

/-! Phrases that are looked for in a message regardless of case: runs of fixed spellings with
choices, and word edges between them. -/
namespace CodeHealth.Text

/-- One stretch of a phrase. -/
inductive Piece where
  | oneOf (spellings : List (List Char))
  | edge

abbrev Phrase := List Piece

namespace Phrase

def text (s : String) : Piece := .oneOf [s.toList]

def optional (s : String) : Piece := .oneOf [s.toList, []]

def choice (ss : List String) : Piece := .oneOf (ss.map String.toList)

/-- What follows `spelling` at the start of `cs`, and the last character before that. -/
def skip (spelling : List Char) (left : Option Char) (cs : List Char) :
    Option (Option Char × List Char) :=
  match spelling, cs with
  | [], cs => some (left, cs)
  | _ :: _, [] => none
  | k :: ks, c :: r => if fold c = k then skip ks (some c) r else none

/-- Whether `phrase` stands at the start of `cs`, with `left` before it. -/
def startsAt : Phrase → Option Char → List Char → Bool
  | [], _, _ => true
  | .edge :: ps, left, cs => Word.isEdge left cs.head? && startsAt ps left cs
  | .oneOf ws :: ps, left, cs => ws.any fun w =>
    match skip w left cs with
    | some (l, r) => startsAt ps l r
    | none => false

/-- Whether `phrase` occurs anywhere in `cs`, with `left` before it. -/
def occursAfter (phrase : Phrase) (left : Option Char) : List Char → Bool
  | [] => startsAt phrase left []
  | c :: r => startsAt phrase left (c :: r) || occursAfter phrase (some c) r

def occursIn (phrase : Phrase) (s : String) : Bool := occursAfter phrase none s.toList

end Phrase

end CodeHealth.Text
