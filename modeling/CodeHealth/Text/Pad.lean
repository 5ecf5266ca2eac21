/-! Text filled up with blanks to a width counted in characters. -/
namespace CodeHealth.Text

def blanks (n : Nat) : String := String.ofList (List.replicate n ' ')

/-- `s` at the left end of a column. -/
def padEnd (width : Nat) (s : String) : String := s ++ blanks (width - s.length)

/-- `s` at the right end of a column. -/
def padStart (width : Nat) (s : String) : String := blanks (width - s.length) ++ s

end CodeHealth.Text
