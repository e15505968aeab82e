import TransferGateway.Number.Integer

/-!
# Lines with emphasis

What is printed is made of spans, and a span may stand out.  On a terminal, codes in front of a
span and behind it say how; without codes all spans look alike.
-/

namespace TransferGateway.Cli

/-- How a span stands out. -/
inductive Emphasis where
  | strong
  | faint
  | success
  | warning
  | failure
  | alarm
deriving DecidableEq, Repr, Inhabited

namespace Emphasis

/-- The attributes of a terminal that show an emphasis: bold, faint, and colours in the order
red, green, yellow. -/
def attributes : Emphasis → List Nat
  | .strong => [1]
  | .faint => [2]
  | .failure => [31]
  | .success => [32]
  | .warning => [33]
  | .alarm => [1, 31]

/-- The code that sets attributes of a terminal. -/
def codeOf (attributes : List Nat) : List Char :=
  ['\x1b', '['] ++ [';'].intercalate (attributes.map Number.decimalDigits) ++ ['m']

/-- The code that an emphasis begins with. -/
def opening (e : Emphasis) : List Char := codeOf e.attributes

/-- The code that ends every emphasis. -/
def closing : List Char := codeOf [0]

/-- A text in which an emphasis begins anew wherever the text itself ends it. -/
def resume (e : Emphasis) : List Char → List Char
  | '\x1b' :: '[' :: '0' :: 'm' :: rest => closing ++ e.opening ++ resume e rest
  | c :: rest => c :: resume e rest
  | [] => []

/-- A text with the codes of an emphasis. -/
def apply (e : Emphasis) (text : List Char) : List Char := e.opening ++ e.resume text ++ closing

end Emphasis

/-- A text that may stand out. -/
structure Span where
  text : String
  emphasis : Option Emphasis := none
deriving DecidableEq, Repr, Inhabited

/-- The text of a span, with codes or without. -/
def Span.render (withCodes : Bool) (s : Span) : String :=
  match s.emphasis with
  | some e => if withCodes then String.ofList (e.apply s.text.toList) else s.text
  | none => s.text

/-- The spans of a line. -/
abbrev Line := List Span

/-- A line that does not stand out. -/
def plain (text : String) : Line := [{ text }]

/-- A line that stands out. -/
def shown (emphasis : Emphasis) (text : String) : Line := [{ text, emphasis := some emphasis }]

/-- The text of spans, with codes or without. -/
def renderSpans (withCodes : Bool) (spans : List Span) : String :=
  String.join (spans.map (Span.render withCodes))

end TransferGateway.Cli
