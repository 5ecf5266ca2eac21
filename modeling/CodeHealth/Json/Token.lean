import CodeHealth.Number.Digits
import CodeHealth.Number.Numeral

/-! The tokens of a JSON text. What a token denotes may be nothing: a numeral can be too large for
a number, and a quoted text can hold half of a surrogate pair. Such tokens are kept, since they
do no harm where nobody reads them. -/
namespace CodeHealth.Json

open Number

inductive Token where
  | listOpen
  | listClose
  | recordOpen
  | recordClose
  | colon
  | comma
  | null
  | bool (b : Bool)
  | number (x : Option Scalar)
  | text (s : Option String)
  deriving DecidableEq

namespace Token

def isSpace (c : Char) : Bool := c == ' ' || c == '\n' || c == '\t' || c == '\r'

def digitsOf (cs : List Char) : List Nat := cs.map fun c => c.toNat - 48

/-- One element of a quoted text: a character, or a code unit of 16 bits given by number. -/
inductive Element where
  | char (c : Char)
  | code (n : Nat)

def escaped (c : Char) : Option Char :=
  match c with
  | '"' => some '"'
  | '\\' => some '\\'
  | '/' => some '/'
  | 'b' => some (Char.ofNat 8)
  | 'f' => some (Char.ofNat 12)
  | 'n' => some '\n'
  | 'r' => some '\r'
  | 't' => some '\t'
  | _ => none

/-- The elements up to the closing quote, and what follows it. -/
def elements : List Char → Option (List Element × List Char)
  | [] => none
  | '"' :: r => some ([], r)
  | '\\' :: 'u' :: a :: b :: c :: d :: r => do
    let n := 4096 * (← hexValue a) + 256 * (← hexValue b) + 16 * (← hexValue c) + (← hexValue d)
    let (es, rest) ← elements r
    some (.code n :: es, rest)
  | '\\' :: e :: r => do
    let c ← escaped e
    let (es, rest) ← elements r
    some (.char c :: es, rest)
  | c :: r =>
    if c.toNat < 32 then none
    else do
      let (es, rest) ← elements r
      some (.char c :: es, rest)

def isLead (n : Nat) : Bool := 0xD800 ≤ n && n < 0xDC00

def isTrail (n : Nat) : Bool := 0xDC00 ≤ n && n < 0xE000

/-- The characters that elements stand for; a lead and a trail surrogate make one character, and
neither stands alone. -/
def join : List Element → Option (List Char)
  | [] => some []
  | .char c :: r => (join r).map (c :: ·)
  | .code a :: .code b :: r =>
    if isLead a then
      if isTrail b then
        (join r).map (Char.ofNat (0x10000 + (a - 0xD800) * 1024 + (b - 0xDC00)) :: ·)
      else none
    else if isTrail a then none
    else (join (.code b :: r)).map (Char.ofNat a :: ·)
  | .code a :: r => if isLead a || isTrail a then none else (join r).map (Char.ofNat a :: ·)

def quoted (cs : List Char) : Option (Token × List Char) :=
  (elements cs).map fun p => (.text ((join p.1).map String.ofList), p.2)

/-- The digits before the point: zero stands alone. -/
def wholeDigits (cs : List Char) : Option (List Char × List Char) :=
  match cs.takeWhile isDecimal with
  | [] => none
  | '0' :: _ :: _ => none
  | ds => some (ds, cs.dropWhile isDecimal)

def fractionDigits (cs : List Char) : Option (Option (List Nat) × List Char) :=
  match cs with
  | '.' :: r =>
    match r.takeWhile isDecimal with
    | [] => none
    | ds => some (some (digitsOf ds), r.dropWhile isDecimal)
  | _ => some (none, cs)

def unsignedExponent (negative : Bool) (cs : List Char) : Option (Option Int × List Char) :=
  match cs.takeWhile isDecimal with
  | [] => none
  | ds => some (some (if negative then -ofDecimals ds else ofDecimals ds), cs.dropWhile isDecimal)

def exponent (cs : List Char) : Option (Option Int × List Char) :=
  match cs with
  | c :: r =>
    if c = 'e' ∨ c = 'E' then
      match r with
      | '-' :: r => unsignedExponent true r
      | '+' :: r => unsignedExponent false r
      | r => unsignedExponent false r
    else some (none, cs)
  | [] => some (none, [])

def numeral (negative : Bool) (cs : List Char) : Option (Token × List Char) := do
  let (whole, r) ← wholeDigits cs
  let (fraction, r) ← fractionDigits r
  let (exponent, r) ← exponent r
  some (.number (Numeral.value ⟨negative, digitsOf whole, fraction, exponent⟩), r)

/-- The token at the start of a text that does not start with a space. -/
def first (cs : List Char) : Option (Token × List Char) :=
  match cs with
  | [] => none
  | '[' :: r => some (.listOpen, r)
  | ']' :: r => some (.listClose, r)
  | '\x7b' :: r => some (.recordOpen, r)
  | '\x7d' :: r => some (.recordClose, r)
  | ':' :: r => some (.colon, r)
  | ',' :: r => some (.comma, r)
  | '"' :: r => quoted r
  | '-' :: r => numeral true r
  | 'n' :: 'u' :: 'l' :: 'l' :: r => some (.null, r)
  | 't' :: 'r' :: 'u' :: 'e' :: r => some (.bool true, r)
  | 'f' :: 'a' :: 'l' :: 's' :: 'e' :: r => some (.bool false, r)
  | cs => numeral false cs

/-- All tokens, at most `n` of them. -/
def scan : Nat → List Char → Option (List Token)
  | n, cs =>
    match n, cs.dropWhile isSpace with
    | _, [] => some []
    | 0, _ => none
    | n + 1, cs => do
      let (t, r) ← first cs
      (scan n r).map (t :: ·)

def ofChars (cs : List Char) : Option (List Token) := scan cs.length cs

end Token

end CodeHealth.Json
