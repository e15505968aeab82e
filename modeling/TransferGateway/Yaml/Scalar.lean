import TransferGateway.Number.Integer
import TransferGateway.Yaml.Cursor

/-!
# Scalars of YAML

The three ways a scalar is written: between quotes, plain, and as a block of lines.  A line
break in a quoted or plain scalar becomes a space, and each further one a line feed.
-/

namespace TransferGateway.Yaml

/-- The text of a scalar and what follows it. -/
structure ScannedScalar where
  text : List Char
  /-- Where the text itself ends. -/
  stop : Mark
  after : Cursor
  /-- Whether a line was begun after the text. -/
  newLine : Bool := false

/-- The blanks between two runs of a scalar. -/
structure Gap where
  /-- The spaces and tabs before the first line break. -/
  spaces : List Char := []
  /-- The first line break. -/
  first : List Char := []
  /-- The further line breaks. -/
  others : List Char := []
  /-- Whether a line break has been passed. -/
  broken : Bool := false
  /-- The first tab that stands where a line is indented. -/
  strayTab : Option Mark := none
deriving Repr, Inhabited

namespace Gap

/-- What a gap counts as in the text of a scalar. -/
def text (g : Gap) : List Char :=
  if g.broken then
    if g.first = ['\n'] then
      if g.others.isEmpty then [' '] else g.others
    else g.first ++ g.others
  else g.spaces

/-- Take in a line break. -/
def addBreak (g : Gap) (c : Char) : Gap :=
  if g.broken then { g with others := g.others ++ [breakText c] }
  else { g with spaces := [], first := [breakText c], broken := true }

/-- Take in a space or tab; after a line break it is only indentation, where a tab before the
given column is out of place. -/
def addSpace (indent : Nat) (mark : Mark) (g : Gap) (c : Char) : Gap :=
  if g.broken then
    if c = '\t' ∧ mark.column < indent ∧ g.strayTab = none then { g with strayTab := some mark }
    else g
  else { g with spaces := g.spaces ++ [c] }

/-- Read the blanks at a place. -/
def scanFrom (indent : Nat) : List Char → Mark → Gap → Gap × Cursor
  | '\r' :: '\n' :: rest, mark, g => scanFrom indent rest (mark.nextLine 2) (g.addBreak '\n')
  | c :: rest, mark, g =>
    if isSpaceOrTab c then scanFrom indent rest (mark.next c) (g.addSpace indent mark c)
    else if isBreak c then scanFrom indent rest (mark.nextLine c.utf8Size) (g.addBreak c)
    else (g, ⟨c :: rest, mark⟩)
  | [], mark, g => (g, ⟨[], mark⟩)

/-- Read the blanks at the cursor. -/
def scan (indent : Nat) (c : Cursor) (start : Gap) : Gap × Cursor :=
  scanFrom indent c.rest c.mark start

end Gap

/-! ## Quoted scalars -/

/-- The kinds of quotes. -/
inductive QuoteKind where
  | single
  | double
deriving DecidableEq, Repr

/-- The quote character. -/
def QuoteKind.char : QuoteKind → Char
  | .single => '\''
  | .double => '"'

/-- The character of an escape of one letter. -/
def simpleEscape? : Char → Option Char
  | '0' => some '\x00'
  | 'a' => some '\x07'
  | 'b' => some '\x08'
  | 't' => some '\t'
  | '\t' => some '\t'
  | 'n' => some '\n'
  | 'v' => some '\x0b'
  | 'f' => some '\x0c'
  | 'r' => some '\r'
  | 'e' => some '\x1b'
  | ' ' => some ' '
  | '"' => some '"'
  | '/' => some '/'
  | '\\' => some '\\'
  | 'N' => some (Char.ofNat 0x85)
  | '_' => some (Char.ofNat 0xA0)
  | 'L' => some (Char.ofNat 0x2028)
  | 'P' => some (Char.ofNat 0x2029)
  | _ => none

/-- The number of hexadecimal digits of an escape. -/
def hexEscapeLength? : Char → Option Nat
  | 'x' => some 2
  | 'u' => some 4
  | 'U' => some 8
  | _ => none

/-- A character by its number, unless there is none. -/
def charOfNumber? (n : Nat) : Option Char :=
  if (0xD800 ≤ n ∧ n ≤ 0xDFFF) ∨ 0x10FFFF < n then none else some (Char.ofNat n)

/-- The character of an escape at the backslash, and what follows. -/
def scanEscape (start : Mark) (c : Cursor) : Except SyntaxError (Char × Cursor) :=
  let fault := fun (place : Cursor) problem =>
    place.problem "while parsing a quoted scalar" start problem
  match simpleEscape? (c.at? 1), hexEscapeLength? (c.at? 1) with
  | some x, _ => .ok (x, c.skipMany 2)
  | none, none => .error (fault c "found unknown escape character")
  | none, some length =>
    let digits := c.skipMany 2
    match Number.ofDigits? 16 (digits.rest.take length) with
    | none => .error (fault digits "did not find expected hexadecimal number")
    | some n =>
      if digits.rest.length < length then
        .error (fault digits "did not find expected hexadecimal number")
      else
        match charOfNumber? n with
        | none => .error (fault digits "found invalid Unicode character escape code")
        | some x => .ok (x, digits.skipMany length)

/-- A run of characters between quotes up to a blank, the closing quote or the end of the text,
collected in reverse; also tells whether it ended at an escaped line break.  The fuel bounds
the number of characters. -/
def quotedRun (kind : QuoteKind) (start : Mark) :
    Nat → Cursor → List Char → Except SyntaxError (List Char × Cursor × Bool)
  | 0, c, run => .ok (run, c, false)
  | fuel + 1, c, run =>
    let x := c.char
    if endsWord x then .ok (run, c, false)
    -- A doubled quote stands for one.
    else if kind = .single ∧ x = '\'' ∧ c.at? 1 = '\'' then
      quotedRun kind start fuel (c.skipMany 2) ('\'' :: run)
    else if x = kind.char then .ok (run, c, false)
    else if kind = .double ∧ x = '\\' then
      -- An escaped break joins the lines without a space.
      if isBreak (c.at? 1) then .ok (run, c.skip.skipBreak, true)
      else
        match scanEscape start c with
        | .error e => .error e
        | .ok (y, after) => quotedRun kind start fuel after (y :: run)
    else quotedRun kind start fuel c.skip (x :: run)

/-- The inside of a quoted scalar, collected in reverse; the fuel bounds the number of runs. -/
def quotedInside (kind : QuoteKind) (start : Mark) :
    Nat → Cursor → List Char → Except SyntaxError (List Char × Cursor)
  | 0, c, text => .ok (text, c)
  | fuel + 1, c, text =>
    if c.atDocumentEdge then
      .error (c.problem "while scanning a quoted scalar" start
        "found unexpected document indicator")
    else if c.atEnd then
      .error (c.problem "while scanning a quoted scalar" start "found unexpected end of stream")
    else
      match quotedRun kind start (c.rest.length + 1) c text with
      | .error e => .error e
      | .ok (text, after, escaped) =>
        if after.char = kind.char then .ok (text, after)
        else
          let (gap, next) := Gap.scan 0 after { broken := escaped }
          quotedInside kind start fuel next (gap.text.reverse ++ text)

/-- A quoted scalar at the cursor. -/
def scanQuoted (kind : QuoteKind) (c : Cursor) : Except SyntaxError ScannedScalar :=
  match quotedInside kind c.mark (c.rest.length + 1) c.skip [] with
  | .error e => .error e
  | .ok (text, after) => .ok ⟨text.reverse, after.skip.mark, after.skip, false⟩

/-! ## Plain scalars -/

/-- Indicators of flow collections that a plain scalar inside them ends at. -/
def isFlowIndicator (c : Char) : Bool :=
  c == ',' || c == '[' || c == ']' || c == '\x7b' || c == '\x7d'

/-- A run of a plain scalar up to a blank or an indicator, collected in reverse. -/
def plainRun (inFlow : Bool) (start : Mark) :
    List Char → Mark → List Char → Except SyntaxError (List Char × Cursor)
  | [], mark, run => .ok (run, ⟨[], mark⟩)
  | c :: rest, mark, run =>
    let next := rest.head?.getD endChar
    if endsWord c then .ok (run, ⟨c :: rest, mark⟩)
    else if inFlow && c == ':' && (isFlowIndicator next || next == '?') then
      .error (.malformed "found unexpected ':'" mark
        (some ⟨"while scanning a plain scalar", start⟩))
    else if (c == ':' && endsWord next) || (inFlow && isFlowIndicator c) then
      .ok (run, ⟨c :: rest, mark⟩)
    else plainRun inFlow start rest (mark.next c) (c :: run)

/-- The text of a plain scalar from one of its runs on, collected in reverse; a gap is only kept
when a run follows it.  The fuel bounds the number of runs. -/
def plainFrom (inFlow : Bool) (indent : Nat) (start : Mark) :
    Nat → Cursor → Gap → List Char → Mark → Except SyntaxError ScannedScalar
  | 0, c, gap, text, stop => .ok ⟨text, stop, c, gap.broken⟩
  | fuel + 1, c, gap, text, stop =>
    -- A comment ends a scalar; the check comes after a gap, so a blank stands before it.
    if c.atDocumentEdge || c.char == '#' then .ok ⟨text, stop, c, gap.broken⟩
    else
      match plainRun inFlow start c.rest c.mark [] with
      | .error e => .error e
      | .ok (run, after) =>
        -- A gap belongs to the text only when more of it follows.
        let text := if run.isEmpty then text else run ++ gap.text.reverse ++ text
        let stop := if run.isEmpty then stop else after.mark
        let pending : Gap := if run.isEmpty then gap else {}
        if !(isSpaceOrTab after.char || isBreak after.char) then
          .ok ⟨text, stop, after, pending.broken⟩
        else
          let (gap, next) := Gap.scan indent after pending
          match gap.strayTab with
          | some mark =>
            .error (.malformed "found a tab character that violates indentation" mark
              (some ⟨"while scanning a plain scalar", start⟩))
          | none =>
            if !inFlow && decide (next.mark.column < indent) then
              .ok ⟨text, stop, next, gap.broken⟩
            else plainFrom inFlow indent start fuel next gap text stop

/-- A plain scalar at the cursor, whose further lines are indented to the given column. -/
def scanPlain (inFlow : Bool) (indent : Nat) (c : Cursor) : Except SyntaxError ScannedScalar :=
  match plainFrom inFlow indent c.mark (c.rest.length + 1) c {} [] c.mark with
  | .error e => .error e
  | .ok s => .ok { s with text := s.text.reverse }

/-! ## Block scalars -/

/-- What happens to the line breaks at the end of a block scalar. -/
inductive Chomping where
  | strip
  | clip
  | keep
deriving DecidableEq, Repr

/-- The header of a block scalar: chomping and the stated indentation. -/
structure BlockHeader where
  chomping : Chomping := .clip
  increment : Option Nat := none

/-- The chomping that a character asks for. -/
def chomping? : Char → Option Chomping
  | '+' => some .keep
  | '-' => some .strip
  | _ => none

/-- An indentation digit, if one stands here. -/
def scanIncrement (start : Mark) (c : Cursor) : Except SyntaxError (Option Nat × Cursor) :=
  if c.char = '0' then
    .error (c.problem "while scanning a block scalar" start
      "found an indentation indicator equal to 0")
  else if c.char.isDigit then .ok (some (c.char.toNat - '0'.toNat), c.skip)
  else .ok (none, c)

/-- The header of a block scalar. -/
def scanBlockHeader (start : Mark) (c : Cursor) : Except SyntaxError (BlockHeader × Cursor) :=
  match chomping? c.char with
  | some chomping =>
    match scanIncrement start c.skip with
    | .error e => .error e
    | .ok (increment, after) => .ok (⟨chomping, increment⟩, after)
  | none =>
    match scanIncrement start c with
    | .error e => .error e
    | .ok (none, after) => .ok ({}, after)
    | .ok (some n, after) =>
      match chomping? after.char with
      | some chomping => .ok (⟨chomping, some n⟩, after.skip)
      | none => .ok (⟨.clip, some n⟩, after)

/-- The empty lines before a line of a block scalar. -/
structure EmptyLines where
  breaks : List Char := []
  /-- The largest column that was reached. -/
  widest : Nat := 0
  /-- Where the last of them ends. -/
  stop : Mark
  after : Cursor

/-- Read empty lines.  Without a known indentation every space is passed over; the fuel bounds
the number of characters. -/
def scanEmptyLines (indent : Option Nat) (start : Mark) :
    Nat → EmptyLines → Except SyntaxError EmptyLines
  | 0, lines => .ok lines
  | fuel + 1, lines =>
    let c := lines.after
    let inside := fun (mark : Mark) =>
      match indent with
      | none => true
      | some n => decide (mark.column < n)
    if inside c.mark && c.char == ' ' then
      scanEmptyLines indent start fuel { lines with after := c.skip }
    else
      let lines := { lines with widest := max lines.widest c.mark.column }
      if inside c.mark && c.char == '\t' then
        .error (c.problem "while scanning a block scalar" start
          "found a tab character where an indentation space is expected")
      else if isBreak c.char then
        let next := c.skipBreak
        scanEmptyLines indent start fuel
          { lines with breaks := lines.breaks ++ c.breakHere, stop := next.mark, after := next }
      else .ok lines

/-- What has been read of a block scalar. -/
structure BlockText where
  text : List Char := []
  /-- The line break after the last line. -/
  lineBreak : List Char := []
  /-- The empty lines after it. -/
  emptyLines : List Char := []
  /-- Whether the last line began with a blank. -/
  indented : Bool := false
  stop : Mark
  after : Cursor

namespace BlockText

/-- The text with the break between the last line and the next one.  In a folded scalar two
lines that begin without blank are joined by a space. -/
def joined (folded : Bool) (b : BlockText) (nextIndented : Bool) : List Char :=
  if folded && b.lineBreak == ['\n'] && !b.indented && !nextIndented then
    b.text ++ (if b.emptyLines.isEmpty then [' '] else b.emptyLines)
  else b.text ++ b.lineBreak ++ b.emptyLines

/-- The text with its end chomped. -/
def chomped (chomping : Chomping) (b : BlockText) : List Char :=
  match chomping with
  | .strip => b.text
  | .clip => b.text ++ b.lineBreak
  | .keep => b.text ++ b.lineBreak ++ b.emptyLines

end BlockText

/-- Read the lines of a block scalar; the fuel bounds their number. -/
def scanBlockLines (folded : Bool) (indent : Nat) (start : Mark) :
    Nat → BlockText → Except SyntaxError BlockText
  | 0, b => .ok b
  | fuel + 1, b =>
    let c := b.after
    if c.mark.column = indent ∧ !c.atEnd then
      let indented := isSpaceOrTab c.char
      let (line, lineEnd) := c.span fun x => !isBreakOrEnd x
      let next := lineEnd.skipBreak
      match scanEmptyLines (some indent) start (next.rest.length + 1)
          { stop := next.mark, after := next } with
      | .error e => .error e
      | .ok lines =>
        scanBlockLines folded indent start fuel {
          text := b.joined folded indented ++ line
          lineBreak := lineEnd.breakHere
          emptyLines := lines.breaks
          indented
          stop := lines.stop
          after := lines.after }
    else .ok b

/-- The indentation of a block scalar that states none: that of its first line, but more than
that of the collection around it. -/
def blockIndent (outer : Int) (widest : Nat) : Nat := max (max widest (outer + 1).toNat) 1

/-- A block scalar at the cursor, in a collection of the given indentation. -/
def scanBlock (folded : Bool) (outer : Int) (c : Cursor) : Except SyntaxError ScannedScalar :=
  let start := c.mark
  match scanBlockHeader start c.skip with
  | .error e => .error e
  | .ok (header, after) =>
    let lineEnd := after.skipToLineEnd
    if !isBreakOrEnd lineEnd.char then
      .error (lineEnd.problem "while scanning a block scalar" start
        "did not find expected comment or line break")
    else
      let first := lineEnd.skipBreak
      let stated := header.increment.map fun n => if 0 ≤ outer then outer.toNat + n else n
      match scanEmptyLines stated start (first.rest.length + 1)
          { stop := first.mark, after := first } with
      | .error e => .error e
      | .ok lines =>
        let indent := stated.getD (blockIndent outer lines.widest)
        match scanBlockLines folded indent start (lines.after.rest.length + 1)
            { emptyLines := lines.breaks, stop := lines.stop, after := lines.after } with
        | .error e => .error e
        | .ok b => .ok ⟨b.chomped header.chomping, b.stop, b.after, true⟩

end TransferGateway.Yaml
