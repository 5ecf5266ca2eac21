/-! Path patterns. A star stands for any run of characters without a line feed, every other
character for itself, and a pattern has to cover the whole path. -/
namespace CodeHealth.Text.Glob

def accepts : List Char → List Char → Bool
  | [], [] => true
  | [], _ :: _ => false
  | k :: p, [] => k == '*' && accepts p []
  | k :: p, c :: s =>
    if k = '*' then accepts p (c :: s) || (c != '\n' && accepts (k :: p) s)
    else k == c && accepts p s
termination_by p s => p.length + s.length

end CodeHealth.Text.Glob
