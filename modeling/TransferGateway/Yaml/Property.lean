import TransferGateway.Number.Integer
import TransferGateway.Yaml.Cursor
import TransferGateway.Yaml.Token

/-!
# Properties and directives of YAML

Anchors, aliases and tags in front of a node, and the directives in front of a document.
-/

namespace TransferGateway.Yaml

/-! ## Anchors and aliases -/

/-- Characters that may follow an anchor or alias at once. -/
def endsAnchor (c : Char) : Bool :=
  endsWord c || c == '?' || c == ':' || c == ',' || c == ']' || c == '\x7d' || c == '%' ||
    c == '@' || c == Char.ofNat 0x60

/-- The name behind the mark of an anchor or alias. -/
def scanName (what : String) (c : Cursor) : Except SyntaxError (String × Cursor) :=
  let (name, after) := c.skip.span isNameChar
  if name.isEmpty || !endsAnchor after.char then
    .error (after.problem what c.mark "did not find expected alphabetic or numeric character")
  else .ok (String.ofList name, after)

/-! ## Tags -/

/-- Where a tag is read: in front of a node or in a directive. -/
inductive TagPlace where
  | node
  | directive
deriving DecidableEq, Repr

/-- What is being read when a tag goes wrong. -/
def TagPlace.what : TagPlace → String
  | .node => "while parsing a tag"
  | .directive => "while parsing a %TAG directive"

/-- Characters of the suffix of a tag; commas and brackets only where nothing else is meant. -/
def isUriChar (verbatim : Bool) (c : Char) : Bool :=
  isNameChar c || ";/?:@&=+$.%!~*'()".toList.contains c || (verbatim && ",[]".toList.contains c)

/-- The octet of an escape of two hexadecimal digits. -/
def escapedOctet? (c : Cursor) : Option Nat :=
  if c.char = '%' then
    match Number.digitValue? 16 (c.at? 1), Number.digitValue? 16 (c.at? 2) with
    | some high, some low => some (high * 16 + low)
    | _, _ => none
  else none

/-- The number of octets that the first of them asks for. -/
def escapedWidth? (octet : Nat) : Option Nat :=
  if octet < 0x80 then some 1
  else if octet < 0xC0 then none
  else if octet < 0xE0 then some 2
  else if octet < 0xF0 then some 3
  else if octet < 0xF8 then some 4
  else none

/-- The further octets of an escaped character. -/
def escapedTail (place : TagPlace) (start : Mark) :
    Nat → Cursor → Except SyntaxError (List UInt8 × Cursor)
  | 0, c => .ok ([], c)
  | count + 1, c =>
    match escapedOctet? c with
    | none => .error (c.problem place.what start "did not find URI escaped octet")
    | some octet =>
      if octet / 0x40 = 2 then
        (escapedTail place start count (c.skipMany 3)).map fun (rest, after) =>
          (UInt8.ofNat octet :: rest, after)
      else .error (c.problem place.what start "found an incorrect trailing UTF-8 octet")

/-- The octets of an escaped character of a tag.  They have the form of a character, but it may
be none, or one that has a shorter form. -/
def scanEscaped (place : TagPlace) (start : Mark) (c : Cursor) :
    Except SyntaxError (List UInt8 × Cursor) :=
  match escapedOctet? c with
  | none => .error (c.problem place.what start "did not find URI escaped octet")
  | some octet =>
    match escapedWidth? octet with
    | none => .error (c.problem place.what start "found an incorrect leading UTF-8 octet")
    | some width =>
      (escapedTail place start (width - 1) (c.skipMany 3)).map fun (rest, after) =>
        (UInt8.ofNat octet :: rest, after)

/-- The octets of a suffix; the fuel bounds their number. -/
def uriFrom (verbatim : Bool) (place : TagPlace) (start : Mark) :
    Nat → Cursor → Except SyntaxError (List UInt8 × Cursor)
  | 0, c => .ok ([], c)
  | fuel + 1, c =>
    if !isUriChar verbatim c.char then .ok ([], c)
    else
      match if c.char = '%' then scanEscaped place start c
          else .ok (String.utf8EncodeChar c.char, c.skip) with
      | .error e => .error e
      | .ok (octets, after) =>
        (uriFrom verbatim place start fuel after).map fun (rest, stop) => (octets ++ rest, stop)

/-- The suffix of a tag behind what was read of it already; it ends before a zero octet. -/
def scanUri (verbatim : Bool) (place : TagPlace) (start : Mark) (head : List Char) (c : Cursor) :
    Except SyntaxError (List UInt8 × Cursor) :=
  match uriFrom verbatim place start (c.rest.length + 1) c with
  | .error e => .error e
  | .ok (tail, after) =>
    if head.isEmpty && tail.isEmpty then
      .error (after.problem place.what start "did not find expected tag URI")
    else .ok (beforeZero ((head.drop 1).flatMap String.utf8EncodeChar ++ tail), after)

/-- The handle of a tag: an exclamation mark, a name, and perhaps a second mark. -/
def scanHandle (place : TagPlace) (start : Mark) (c : Cursor) :
    Except SyntaxError (List Char × Cursor) :=
  let what :=
    if place = .directive then "while scanning a tag directive" else "while scanning a tag"
  if c.char != '!' then .error (c.problem what start "did not find expected '!'")
  else
    let (name, after) := c.skip.span isNameChar
    if after.char = '!' then .ok ('!' :: name ++ ['!'], after.skip)
    else if place = .directive ∧ !name.isEmpty then
      .error (after.problem "while parsing a tag directive" start "did not find expected '!'")
    else .ok ('!' :: name, after)

/-- A tag that gives its whole text between angle brackets. -/
def scanVerbatimTag (c : Cursor) : Except SyntaxError (TagText × Cursor) :=
  match scanUri true .node c.mark [] (c.skipMany 2) with
  | .error e => .error e
  | .ok (suffix, after) =>
    if after.char = '>' then .ok (⟨"", suffix⟩, after.skip)
    else .error (after.problem "while scanning a tag" c.mark "did not find the expected '>'")

/-- A tag with a handle; one without a second mark has the handle of a single mark, and a mark
alone is a tag of its own. -/
def scanShortTag (c : Cursor) : Except SyntaxError (TagText × Cursor) :=
  match scanHandle .node c.mark c with
  | .error e => .error e
  | .ok (handle, after) =>
    if handle.length > 1 ∧ handle.getLast? = some '!' then
      (scanUri false .node c.mark [] after).map fun (suffix, stop) =>
        (⟨String.ofList handle, suffix⟩, stop)
    else
      (scanUri false .node c.mark handle after).map fun (suffix, stop) =>
        (if suffix.isEmpty then ⟨"", octetsOf "!"⟩ else ⟨"!", suffix⟩, stop)

/-- A tag at the cursor. -/
def scanTag (inFlow : Bool) (c : Cursor) : Except SyntaxError (TagText × Cursor) :=
  match if c.at? 1 = '<' then scanVerbatimTag c else scanShortTag c with
  | .error e => .error e
  | .ok (tag, after) =>
    if endsWord after.char || (inFlow && after.char == ',') then .ok (tag, after)
    else
      .error (after.problem "while scanning a tag" c.mark
        "did not find expected whitespace or line break")

/-! ## Directives -/

/-- The most digits of a version number. -/
def maxVersionDigits : Nat := 9

/-- A number of a version. -/
def scanVersionNumber (start : Mark) (c : Cursor) : Except SyntaxError (Nat × Cursor) :=
  let (digits, after) := c.span Char.isDigit
  let what := "while scanning a %YAML directive"
  if maxVersionDigits < digits.length then
    .error ((c.skipMany maxVersionDigits).problem what start
      "found extremely long version number")
  else
    match Number.ofDigits? 10 digits with
    | none => .error (after.problem what start "did not find expected version number")
    | some n => .ok (n, after)

/-- The version of a version directive. -/
def scanVersion (start : Mark) (c : Cursor) : Except SyntaxError (TokenKind × Cursor) :=
  match scanVersionNumber start (c.skipWhile isSpaceOrTab) with
  | .error e => .error e
  | .ok (major, after) =>
    if after.char != '.' then
      .error (after.problem "while scanning a %YAML directive" start
        "did not find expected digit or '.' character")
    else
      (scanVersionNumber start after.skip).map fun (minor, stop) => (.version major minor, stop)

/-- The handle and its expansion of a tag directive. -/
def scanTagDirective (start : Mark) (c : Cursor) : Except SyntaxError (TokenKind × Cursor) :=
  match scanHandle .directive start (c.skipWhile isSpaceOrTab) with
  | .error e => .error e
  | .ok (handle, after) =>
    if !isSpaceOrTab after.char then
      .error (after.problem "while scanning a %TAG directive" start
        "did not find expected whitespace")
    else
      match scanUri true .directive start [] (after.skipWhile isSpaceOrTab) with
      | .error e => .error e
      | .ok (expansion, stop) =>
        if endsWord stop.char then
          .ok (.tagDirective (String.ofList handle) expansion, stop)
        else
          .error (stop.problem "while scanning a %TAG directive" start
            "did not find expected whitespace or line break")

/-- A directive at the cursor, up to the end of its line. -/
def scanDirective (c : Cursor) : Except SyntaxError (Token × Cursor) :=
  let start := c.mark
  let what := "while scanning a directive"
  let (name, after) := c.skip.span isNameChar
  if name.isEmpty then
    .error (after.problem what start "could not find expected directive name")
  else if !endsWord after.char then
    .error (after.problem what start "found unexpected non-alphabetical character")
  else
    let value :=
      if name = "YAML".toList then scanVersion start after
      else if name = "TAG".toList then scanTagDirective start after
      else .error (after.problem what start "found unknown directive name")
    match value with
    | .error e => .error e
    | .ok (kind, stop) =>
      let lineEnd := stop.skipToLineEnd
      if isBreakOrEnd lineEnd.char then .ok (⟨kind, start, stop.mark⟩, lineEnd.skipBreak)
      else
        .error (lineEnd.problem what start "did not find expected comment or line break")

end TransferGateway.Yaml
