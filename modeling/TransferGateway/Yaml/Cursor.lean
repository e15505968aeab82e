import TransferGateway.Yaml.Mark

/-!
# A cursor in a YAML text

The rest of a text and the place where it begins, with the character classes of YAML.  The end
of the text is seen as the zero character, which no text holds.
-/

namespace TransferGateway.Yaml

/-- The rest of a text and where it begins. -/
structure Cursor where
  rest : List Char
  mark : Mark := {}
deriving Repr, Inhabited

/-- The character that stands for the end of a text. -/
def endChar : Char := '\x00'

/-- Spaces and tabs. -/
def isSpaceOrTab (c : Char) : Bool := c == ' ' || c == '\t'

/-- Line breaks. -/
def isBreak (c : Char) : Bool :=
  c == '\n' || c == '\r' || c.toNat == 0x85 || c.toNat == 0x2028 || c.toNat == 0x2029

/-- Line breaks and the end of the text. -/
def isBreakOrEnd (c : Char) : Bool := isBreak c || c == endChar

/-- Spaces, tabs, line breaks and the end of the text. -/
def endsWord (c : Char) : Bool := isSpaceOrTab c || isBreakOrEnd c

/-- Characters of anchors and tag handles. -/
def isNameChar (c : Char) : Bool := c.isAlphanum || c == '_' || c == '-'

/-- Characters a text may hold. -/
def isAllowed (c : Char) : Bool :=
  let n := c.toNat
  n == 0x09 || n == 0x0A || n == 0x0D || (0x20 ≤ n && n ≤ 0x7E) || n == 0x85 ||
    (0xA0 ≤ n && n ≤ 0xFFFD) || 0x10000 ≤ n

/-- How a line break counts in a scalar: the usual ones all become a line feed. -/
def breakText (c : Char) : Char := if c.toNat == 0x2028 || c.toNat == 0x2029 then c else '\n'

namespace Cursor

/-- The character at a distance. -/
def at? (c : Cursor) (distance : Nat) : Char := (c.rest[distance]?).getD endChar

/-- The character at the cursor. -/
def char (c : Cursor) : Char := c.at? 0

/-- Whether the text is at its end. -/
def atEnd (c : Cursor) : Bool := c.rest.isEmpty

/-- Move over a character that is no line break. -/
def skip (c : Cursor) : Cursor :=
  match c.rest with
  | [] => c
  | x :: rest => ⟨rest, c.mark.next x⟩

/-- Move over several characters that are no line breaks. -/
def skipMany (c : Cursor) : Nat → Cursor
  | 0 => c
  | count + 1 => c.skip.skipMany count

/-- Move over a line break, if there is one. -/
def skipBreak (c : Cursor) : Cursor :=
  match c.rest with
  | '\r' :: '\n' :: rest => ⟨rest, c.mark.nextLine 2⟩
  | b :: rest => if isBreak b then ⟨rest, c.mark.nextLine b.utf8Size⟩ else c
  | [] => c

/-- The line break at the cursor as it counts in a scalar. -/
def breakHere (c : Cursor) : List Char := if isBreak c.char then [breakText c.char] else []

/-- The longest run of characters of a class that holds no line break, and what follows. -/
def spanFrom (belongs : Char → Bool) : List Char → Mark → List Char × Cursor
  | [], mark => ([], ⟨[], mark⟩)
  | c :: rest, mark =>
    if belongs c then
      let (run, after) := spanFrom belongs rest (mark.next c)
      (c :: run, after)
    else ([], ⟨c :: rest, mark⟩)

/-- The longest run of characters of a class that holds no line break, and what follows. -/
def span (belongs : Char → Bool) (c : Cursor) : List Char × Cursor :=
  spanFrom belongs c.rest c.mark

/-- Move over a run of characters of a class that holds no line break. -/
def skipWhile (belongs : Char → Bool) (c : Cursor) : Cursor := (c.span belongs).2

/-- Move over spaces, tabs and a comment, up to the end of the line or something else. -/
def skipToLineEnd (c : Cursor) : Cursor :=
  let c := c.skipWhile isSpaceOrTab
  if c.char = '#' then c.skipWhile fun x => !isBreakOrEnd x else c

/-- Whether a mark of three characters stands at the start of the line. -/
def atDocumentMark (c : Cursor) (x : Char) : Bool :=
  c.mark.column == 0 && c.char == x && c.at? 1 == x && c.at? 2 == x && endsWord (c.at? 3)

/-- Whether a document begins or ends here. -/
def atDocumentEdge (c : Cursor) : Bool := c.atDocumentMark '-' || c.atDocumentMark '.'

/-- A problem at the cursor. -/
def problem (c : Cursor) (what : String) (since : Mark) (problem : String) : SyntaxError :=
  .malformed problem c.mark (some ⟨what, since⟩)

end Cursor

/-- The offset in bytes of the first character that no text may hold. -/
def controlOffset? : List Char → Nat → Option Nat
  | [], _ => none
  | c :: rest, offset =>
    if isAllowed c then controlOffset? rest (offset + c.utf8Size) else some offset

end TransferGateway.Yaml
