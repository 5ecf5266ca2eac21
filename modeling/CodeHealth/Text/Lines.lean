/-! The lines of a text: a line feed ends a line, a carriage return right before it belongs to the
ending, and a last line needs no ending. -/
namespace CodeHealth.Text

def linesOf : List Char → List (List Char)
  | [] => []
  | '\n' :: r => [] :: linesOf r
  | '\r' :: '\n' :: r => [] :: linesOf r
  | c :: r =>
    match linesOf r with
    | [] => [[c]]
    | l :: ls => (c :: l) :: ls

def lines (s : String) : List String := (linesOf s.toList).map String.ofList

end CodeHealth.Text
