/-! Percent coding: unreserved ASCII characters stand for themselves, every other byte of the
UTF-8 form is written as `%` and two capital hexadecimal digits. -/
namespace CodeHealth.Text.Percent

def isUnreserved (b : UInt8) : Bool :=
  let c := Char.ofNat b.toNat
  b < 0x80 && (c.isAlphanum || c == '-' || c == '_' || c == '.' || c == '~')

def hexDigit (n : Nat) : Char :=
  if n < 10 then Char.ofNat (48 + n) else Char.ofNat (55 + n)

def encodeByte (b : UInt8) : List Char :=
  if isUnreserved b then [Char.ofNat b.toNat]
  else ['%', hexDigit (b.toNat / 16), hexDigit (b.toNat % 16)]

def encode (s : String) : String :=
  String.ofList (s.toByteArray.data.toList.flatMap encodeByte)

end CodeHealth.Text.Percent
