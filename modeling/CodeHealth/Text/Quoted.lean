/-! Text between double quotes, with everything that does not show written as an escape. -/
namespace CodeHealth.Text.Quoted

/-- Characters that leave no mark of their own: controls, and marks that join the one before. -/
def isInvisible (c : Char) : Bool :=
  let n := c.toNat
  n < 0x20 || (0x7f ≤ n && n < 0xa0) || n = 0xad || (0x300 ≤ n && n < 0x370) ||
    (0x200b ≤ n && n ≤ 0x200f) || (0x2028 ≤ n && n ≤ 0x202e) || (0x2060 ≤ n && n < 0x2070) ||
    (0x20d0 ≤ n && n < 0x20f1) || (0xe000 ≤ n && n < 0xf900) || (0xfe00 ≤ n && n < 0xfe10) ||
    n = 0xfeff || 0xe0000 ≤ n

/-- A character as it stands between the quotes. -/
def escape (c : Char) : List Char :=
  match c with
  | '"' => ['\\', '"']
  | '\\' => ['\\', '\\']
  | '\n' => ['\\', 'n']
  | '\r' => ['\\', 'r']
  | '\t' => ['\\', 't']
  | '\x00' => ['\\', '0']
  | c =>
    if isInvisible c then '\\' :: 'u' :: '\x7b' :: Nat.toDigits 16 c.toNat ++ ['\x7d'] else [c]

def quote (s : String) : String :=
  String.ofList ('"' :: s.toList.flatMap escape ++ ['"'])

end CodeHealth.Text.Quoted
