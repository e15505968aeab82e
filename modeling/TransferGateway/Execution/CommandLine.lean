import TransferGateway.Text.Blank

/-!
# Command lines

A command line is a program and its arguments.  It is read by splitting at blanks; there is no
quoting.
-/

namespace TransferGateway

/-- A program with its arguments. -/
structure CommandLine where
  program : String
  arguments : List String
deriving DecidableEq, Repr, Inhabited

namespace CommandLine

/-- The program followed by the arguments. -/
def toList (c : CommandLine) : List String := c.program :: c.arguments

/-- The command line of a list of words, if there is any word. -/
def ofList? : List String → Option CommandLine
  | [] => none
  | program :: arguments => some ⟨program, arguments⟩

/-- Split a line into its words; a line of blanks has none. -/
def tokenize (line : String) : Option CommandLine := ofList? (wordsOf line)

theorem tokenize_eq_none_iff (line : String) : tokenize line = none ↔ wordsOf line = [] := by
  unfold tokenize
  cases wordsOf line <;> simp [ofList?]

end CommandLine

end TransferGateway
