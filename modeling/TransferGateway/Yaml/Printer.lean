import TransferGateway.Yaml.Cursor
import TransferGateway.Yaml.Typing

/-!
# Writing YAML

Values in block style, two columns to a level, sequences in mappings not indented.  A text is
written plain where it reads back as the same text; otherwise between single quotes; texts of
several lines are literal blocks, and what cannot be shown is escaped between double quotes.
-/

namespace TransferGateway.Yaml

/-- A value to write. -/
inductive Value where
  | null
  | boolean (value : Bool)
  | integer (value : Int)
  | float (value : Binary64)
  | text (value : String)
  | sequence (items : List Value)
  | mapping (entries : List (String × Value))
deriving Repr, Inhabited

/-! ## The style of a text -/

/-- Whether a text would read as something else when written plain. -/
def isAmbiguous (s : String) : Bool :=
  isZeroPadded s.toList ||
    (match plainValue s with
    | .text _ => false
    | _ => true)

/-- Characters that are written as they are. -/
def isPrintable (c : Char) : Bool :=
  let n := c.toNat
  c == '\n' || (0x20 ≤ n && n ≤ 0x7E) || (0xA0 ≤ n && n ≤ 0xFFFD && n != 0xFEFF) || 0x10000 ≤ n

/-- Whether a word ends before a text. -/
def beginsNoWord (s : List Char) : Bool := endsWord (s.head?.getD endChar)

/-- Characters that a plain text does not begin with. -/
def startsIndicator (c : Char) : Bool :=
  "#,[]&*!|>'%@".toList.contains c || c == '"' || c == '\x7b' || c == '\x7d' ||
    c == Char.ofNat 0x60

/-- Whether characters after the first one would be read as an indicator: a colon before a
blank, or a number sign after one. -/
def holdsIndicator : Char → List Char → Bool
  | _, [] => false
  | before, c :: rest =>
    (c == ':' && beginsNoWord rest) || (c == '#' && endsWord before) ||
      holdsIndicator c rest

/-- Whether a text would be read as an indicator. -/
def looksLikeIndicator : List Char → Bool
  | [] => false
  | c :: rest =>
    "---".toList.isPrefixOf (c :: rest) || "...".toList.isPrefixOf (c :: rest) ||
      startsIndicator c ||
      ((c == '?' || c == ':' || c == '-') && beginsNoWord rest) || holdsIndicator c rest

/-- Whether a space stands before a line break. -/
def spaceBeforeBreak : List Char → Bool
  | ' ' :: c :: rest => isBreak c || spaceBeforeBreak (c :: rest)
  | _ :: rest => spaceBeforeBreak rest
  | [] => false

/-- Whether a space stands after a line break. -/
def spaceAfterBreak : List Char → Bool
  | c :: ' ' :: rest => isBreak c || spaceAfterBreak (' ' :: rest)
  | _ :: rest => spaceAfterBreak rest
  | [] => false

/-- Whether a text has no other form than between double quotes. -/
def needsEscapes (s : List Char) : Bool := s.any (fun c => !isPrintable c) || spaceBeforeBreak s

/-- Whether a text may be written plain. -/
def plainAllowed (s : List Char) : Bool :=
  let edge := fun (c : Option Char) =>
    match c with
    | some x => x == ' ' || isBreak x
    | none => false
  !(needsEscapes s || looksLikeIndicator s || s.any isBreak || edge s.head? || edge s.getLast?)

/-- The style a text is written in. -/
def styleOf (s : String) : ScalarStyle :=
  let chars := s.toList
  if chars.contains '\n' then
    if needsEscapes chars || chars.getLast? == some ' ' then .doubleQuoted else .literal
  else if !isAmbiguous s && plainAllowed chars then .plain
  else if needsEscapes chars || spaceAfterBreak chars then .doubleQuoted
  else .singleQuoted

/-! ## The text in its style -/

/-- The spaces of an indentation. -/
def indentation (n : Nat) : List Char := List.replicate n ' '

/-- The inside of a text between single quotes, which are doubled; behind line breaks comes the
indentation. -/
def singleQuotedInside (indent : Nat) : Bool → List Char → List Char
  | afterBreak, [] => if afterBreak then indentation indent else []
  | afterBreak, c :: rest =>
    if isBreak c then c :: singleQuotedInside indent true rest
    else
      (if afterBreak then indentation indent else []) ++
        (if c = '\'' then ['\'', '\''] else [c]) ++ singleQuotedInside indent false rest

/-- A text between single quotes. -/
def singleQuoted (indent : Nat) (s : List Char) : List Char :=
  '\'' :: singleQuotedInside indent false s ++ ['\'']

/-- The letter of a short escape. -/
def escapeLetter? (c : Char) : Option Char :=
  match c.toNat with
  | 0x00 => some '0'
  | 0x07 => some 'a'
  | 0x08 => some 'b'
  | 0x09 => some 't'
  | 0x0A => some 'n'
  | 0x0B => some 'v'
  | 0x0C => some 'f'
  | 0x0D => some 'r'
  | 0x1B => some 'e'
  | 0x22 => some '"'
  | 0x5C => some '\\'
  | 0x85 => some 'N'
  | 0xA0 => some '_'
  | 0x2028 => some 'L'
  | 0x2029 => some 'P'
  | _ => none

/-- A number in upper-case hexadecimal digits of a fixed width. -/
def hexDigits (width n : Nat) : List Char :=
  let digits := (Nat.toDigits 16 n).map Char.toUpper
  List.replicate (width - digits.length) '0' ++ digits

/-- A character between double quotes. -/
def escaped (c : Char) : List Char :=
  if isPrintable c && !isBreak c && c != '"' && c != '\\' then [c]
  else
    match escapeLetter? c with
    | some letter => ['\\', letter]
    | none =>
      let n := c.toNat
      if n ≤ 0xFF then '\\' :: 'x' :: hexDigits 2 n
      else if n ≤ 0xFFFF then '\\' :: 'u' :: hexDigits 4 n
      else '\\' :: 'U' :: hexDigits 8 n

/-- A text between double quotes. -/
def doubleQuoted (s : List Char) : List Char := '"' :: s.flatMap escaped ++ ['"']

/-- The header of a literal block: its indentation if the text begins with a blank, and what
becomes of the line breaks at its end. -/
def literalHeader (s : List Char) : List Char :=
  let hint :=
    match s.head? with
    | some c => if c == ' ' || isBreak c then ['2'] else []
    | none => []
  let chomping :=
    match s.reverse with
    | [] => ['-']
    | [c] => if isBreak c then ['+'] else ['-']
    | c :: d :: _ => if !isBreak c then ['-'] else if isBreak d then ['+'] else []
  '|' :: hint ++ chomping

/-- The lines of a literal block, each that is not empty indented. -/
def literalLines (indent : Nat) : Bool → List Char → List Char
  | _, [] => []
  | lineStart, c :: rest =>
    if isBreak c then c :: literalLines indent true rest
    else if lineStart then indentation indent ++ c :: literalLines indent false rest
    else c :: literalLines indent false rest

/-- A literal block. -/
def literal (indent : Nat) (s : List Char) : List Char :=
  literalHeader s ++ '\n' :: literalLines indent true s

/-- A text in its style. -/
def textLines (indent : Nat) (s : String) : List Char :=
  match styleOf s with
  | .singleQuoted => singleQuoted indent s.toList
  | .doubleQuoted => doubleQuoted s.toList
  | .literal => literal indent s.toList
  | _ => s.toList

/-! ## Values -/

/-- The longest key that stands before its colon in one line, in bytes. -/
def maxSimpleKey : Nat := 128

/-- Whether a key is written behind a question mark, in lines of its own. -/
def isComplexKey (key : String) : Bool :=
  decide (maxSimpleKey < key.utf8ByteSize) || key.toList.any isBreak

namespace Value

/-- Lines behind a mark, the further ones indented. -/
def hang (mark : List Char) : List (List Char) → List (List Char)
  | [] => []
  | first :: rest => (mark ++ first) :: rest.map fun line => ' ' :: ' ' :: line

/-- A value that needs no lines of its own: a scalar or an empty collection.  The further lines of
a text are indented. -/
def inline? (indent : Nat) : Value → Option (List Char)
  | .null => some "null".toList
  | .boolean b => some (toString b).toList
  | .integer n => some (toString n).toList
  | .float x => some x.manifestText.toList
  | .text s => some (textLines indent s)
  | .sequence [] => some "[]".toList
  | .mapping [] => some "\x7b\x7d".toList
  | _ => none

mutual

/-- The lines of a value, the first without its indentation, which the text of a scalar has. -/
def lines (indent : Nat) : Value → List (List Char)
  | .sequence (item :: rest) => itemLines indent (item :: rest)
  | .mapping (entry :: rest) => entryLines indent (entry :: rest)
  | v => [(inline? indent v).getD []]

/-- The lines of items. -/
def itemLines (indent : Nat) : List Value → List (List Char)
  | [] => []
  | item :: rest => hang ['-', ' '] (lines (indent + 2) item) ++ itemLines indent rest

/-- The lines of entries. -/
def entryLines (indent : Nat) : List (String × Value) → List (List Char)
  | [] => []
  | (key, value) :: rest =>
    let own :=
      if isComplexKey key then
        [['?', ' '] ++ textLines (indent + 2) key] ++
          hang [':', ' '] (lines (indent + 2) value)
      else under (textLines (indent + 2) key ++ [':']) indent value
    own ++ entryLines indent rest

/-- A key with its value: in the same line if that has one line, else below. -/
def under (head : List Char) (indent : Nat) : Value → List (List Char)
  | .sequence (item :: rest) => head :: itemLines indent (item :: rest)
  | .mapping (entry :: rest) =>
    head :: (entryLines (indent + 2) (entry :: rest)).map fun line => ' ' :: ' ' :: line
  | v => [head ++ ' ' :: (inline? (indent + 2) v).getD []]

end

/-- A line with its break; a block that ends in one has it. -/
def endLine (line : List Char) : List Char :=
  if line.getLast?.any isBreak then line else line ++ ['\n']

/-- The document of a value. -/
def render (v : Value) : String := String.ofList ((lines 0 v).flatMap endLine)

end Value

end TransferGateway.Yaml
