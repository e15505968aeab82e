/-!
# Places and problems in a YAML text

Where in a text something stands, and why a text is not readable YAML.
-/

namespace TransferGateway.Yaml

/-- A place in a text; everything is counted from zero. -/
structure Mark where
  /-- The bytes before it. -/
  index : Nat := 0
  /-- The line breaks before it. -/
  line : Nat := 0
  /-- The characters before it in its line. -/
  column : Nat := 0
deriving DecidableEq, Repr, Inhabited

namespace Mark

/-- Whether a place is in the first line and column. -/
def isOrigin (m : Mark) : Bool := m.line == 0 && m.column == 0

/-- The text of a place: line and column counted from one. -/
def text (m : Mark) : String :=
  "line " ++ toString (m.line + 1) ++ " column " ++ toString (m.column + 1)

/-- An ending that tells a place; the origin is not told. -/
def ending (m : Mark) : String := if m.isOrigin then "" else " at " ++ m.text

/-- The place after a character of the same line. -/
def next (m : Mark) (c : Char) : Mark := ⟨m.index + c.utf8Size, m.line, m.column + 1⟩

/-- The start of the next line, after a line break of the given length in bytes. -/
def nextLine (m : Mark) (length : Nat) : Mark := ⟨m.index + length, m.line + 1, 0⟩

end Mark

/-- What was being read when a problem turned up. -/
structure Circumstance where
  what : String
  since : Mark
deriving DecidableEq, Repr, Inhabited

/-- Why a text cannot be read as YAML. -/
inductive SyntaxError where
  /-- A character that no text may hold, at a distance in bytes from the start. -/
  | control (offset : Nat)
  /-- The text breaks a rule of the format. -/
  | malformed (problem : String) (mark : Mark) (circumstance : Option Circumstance)
  /-- An alias names no anchor before it. -/
  | unknownAnchor (mark : Mark)
  /-- There is more than one document. -/
  | severalDocuments
  /-- Collections are nested too deep. -/
  | tooDeep (mark : Mark)
  /-- Aliases are followed too often for the size of the document. -/
  | tooManyAliases
deriving DecidableEq, Repr, Inhabited

namespace SyntaxError

/-- The text of the circumstances of a problem; their place is told unless it is the origin or
that of the problem itself. -/
def circumstanceText (mark : Mark) : Option Circumstance → String
  | none => ""
  | some c =>
    ", " ++ c.what ++
      (if c.since.line = mark.line ∧ c.since.column = mark.column then "" else c.since.ending)

/-- The text of an error. -/
def message : SyntaxError → String
  | .control offset =>
    "control characters are not allowed" ++
      (if offset = 0 then "" else " at position " ++ toString offset)
  | .malformed problem mark circumstance =>
    problem ++ mark.ending ++ circumstanceText mark circumstance
  | .unknownAnchor mark => "unknown anchor" ++ mark.ending
  | .severalDocuments =>
    "deserializing from YAML containing more than one document is not supported"
  | .tooDeep mark => "recursion limit exceeded" ++ mark.ending
  | .tooManyAliases => "repetition limit exceeded"

end SyntaxError

end TransferGateway.Yaml
