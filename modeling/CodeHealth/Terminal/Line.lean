/-! Lines for a terminal: spans of text with a style each. The same line can be written with or
without colour. -/
namespace CodeHealth.Terminal

inductive Color where
  | red
  | green
  | yellow
  | cyan
  deriving DecidableEq

structure Style where
  color : Option Color := none
  bold : Bool := false
  dim : Bool := false
  underlined : Bool := false
  deriving DecidableEq

structure Span where
  text : String
  style : Style := {}
  deriving DecidableEq

abbrev Line := List Span

instance : Coe String Span := ⟨fun s => ⟨s, {}⟩⟩

def Color.code : Color → Nat
  | .red => 31
  | .green => 32
  | .yellow => 33
  | .cyan => 36

namespace Style

/-- The codes that turn a style on, the colour first. -/
def codes (s : Style) : List Nat :=
  (s.color.map Color.code).toList ++ (if s.bold then [1] else []) ++ (if s.dim then [2] else []) ++
    (if s.underlined then [4] else [])

end Style

/-- A control sequence that selects one code. -/
def sequence (code : Nat) : String := "\x1b[" ++ toString code ++ "m"

namespace Span

def red (s : Span) : Span := { s with style := { s.style with color := some .red } }

def green (s : Span) : Span := { s with style := { s.style with color := some .green } }

def yellow (s : Span) : Span := { s with style := { s.style with color := some .yellow } }

def cyan (s : Span) : Span := { s with style := { s.style with color := some .cyan } }

def bold (s : Span) : Span := { s with style := { s.style with bold := true } }

def dim (s : Span) : Span := { s with style := { s.style with dim := true } }

def underlined (s : Span) : Span := { s with style := { s.style with underlined := true } }

/-- A span as it is sent to a terminal; one with a style ends by turning it off. -/
def write (color : Bool) (s : Span) : String :=
  if color && !s.style.codes.isEmpty then
    String.join (s.style.codes.map sequence) ++ s.text ++ sequence 0
  else s.text

end Span

/-- Text to which a style can be given. -/
def text (s : String) : Span := s

def number (n : Nat) : Span := toString n

/-- Pieces of one line, side by side. -/
def beside (parts : List Line) : Line := parts.flatten

/-- Groups of lines, one below the other. -/
def stack (groups : List (List Line)) : List Line := groups.flatten

def Line.write (color : Bool) (l : Line) : String := String.join (l.map (Span.write color))

/-- Lines, each with a line break behind it. -/
def write (color : Bool) (ls : List Line) : String :=
  String.join (ls.map fun l => Line.write color l ++ "\n")

end CodeHealth.Terminal
