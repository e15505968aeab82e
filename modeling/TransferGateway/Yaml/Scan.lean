import TransferGateway.Yaml.Property
import TransferGateway.Yaml.Scalar

/-!
# From text to tokens

Block collections are told by indentation: a token further to the right opens one, and one
further to the left closes those it leaves.  A scalar may turn out to be a key only when a colon
follows it, so its place is kept until that is known; it must come in the same line and within
1024 bytes.  When a text is cut short by a problem, only the tokens before the first such
open place can be had of it.
-/

namespace TransferGateway.Yaml

/-- A place where a key may have begun. -/
structure KeyPlace where
  /-- Whether nothing but a key may begin there. -/
  required : Bool
  /-- The number of tokens before it. -/
  position : Nat
  mark : Mark
deriving Repr, Inhabited

/-- A text that is being cut into tokens. -/
structure Scanner where
  cursor : Cursor
  tokens : Array Token := #[]
  /-- The indentation of the innermost block collection; minus one outside all. -/
  indent : Int := -1
  /-- The indentations around it, the innermost first. -/
  outer : List Int := []
  /-- Whether a key may begin here. -/
  keyAllowed : Bool := true
  /-- The open key place of this level. -/
  key : Option KeyPlace := none
  /-- The open key places of the flow collections around, the innermost first. -/
  outerKeys : List (Option KeyPlace) := []
deriving Inhabited

namespace Scanner

/-- Whether the scanner is inside a flow collection. -/
def inFlow (s : Scanner) : Bool := !s.outerKeys.isEmpty

/-- Add a token. -/
def push (s : Scanner) (kind : TokenKind) (start stop : Mark) : Scanner :=
  { s with tokens := s.tokens.push ⟨kind, start, stop⟩ }

/-- Add a token of one character at the cursor and move over it. -/
def pushChar (s : Scanner) (kind : TokenKind) : Scanner :=
  let after := s.cursor.skip
  { s.push kind s.cursor.mark after.mark with cursor := after }

/-- Insert a token of no length. -/
def insert (s : Scanner) (position : Nat) (kind : TokenKind) (mark : Mark) : Scanner :=
  { s with tokens := s.tokens.insertIdxIfInBounds position ⟨kind, mark, mark⟩ }

/-- The problem of a key place that nothing but a key may follow. -/
def missingColon (s : Scanner) (place : KeyPlace) : SyntaxError :=
  s.cursor.problem "while scanning a simple key" place.mark "could not find expected ':'"

/-- The farthest distance in bytes of a colon from the start of its key. -/
def maxKeyLength : Nat := 1024

/-- Whether a key place is too far behind. -/
def isStale (s : Scanner) (place : KeyPlace) : Bool :=
  decide (place.mark.line < s.cursor.mark.line) ||
    decide (place.mark.index + maxKeyLength < s.cursor.mark.index)

/-- Give up a key place that is too far behind. -/
def refresh (s : Scanner) : Option KeyPlace → Except SyntaxError (Option KeyPlace)
  | none => .ok none
  | some place =>
    if s.isStale place then
      if place.required then .error (s.missingColon place) else .ok none
    else .ok (some place)

/-- Give up key places that are too far behind, the outermost first. -/
def refreshAll (s : Scanner) : List (Option KeyPlace) →
    Except SyntaxError (List (Option KeyPlace))
  | [] => .ok []
  | place :: rest =>
    match s.refreshAll rest with
    | .error e => .error e
    | .ok others =>
      match s.refresh place with
      | .error e => .error e
      | .ok kept => .ok (kept :: others)

/-- Give up every key place that is too far behind. -/
def dropStaleKeys (s : Scanner) : Except SyntaxError Scanner :=
  match s.refreshAll (s.key :: s.outerKeys) with
  | .error e => .error e
  | .ok [] => .ok s
  | .ok (key :: outerKeys) => .ok { s with key, outerKeys }

/-- Give up the key place of this level. -/
def closeKey (s : Scanner) : Except SyntaxError Scanner :=
  match s.key with
  | none => .ok s
  | some place =>
    if place.required then .error (s.missingColon place) else .ok { s with key := none }

/-- Open a key place here, if a key may begin here. -/
def openKey (s : Scanner) : Except SyntaxError Scanner :=
  if s.keyAllowed then
    match s.closeKey with
    | .error e => .error e
    | .ok s =>
      -- At the indentation of a block collection nothing but a key can begin.
      let required := !s.inFlow && decide (s.indent = (s.cursor.mark.column : Int))
      .ok { s with key := some ⟨required, s.tokens.size, s.cursor.mark⟩ }
  else .ok s

/-- The indentations left when those right of a column are closed, and the number of these. -/
def unwind (column : Int) : Int → List Int → Int × List Int × Nat
  | indent, outer =>
    match outer with
    | next :: rest =>
      if column < indent then
        let (left, others, count) := unwind column next rest
        (left, others, count + 1)
      else (indent, next :: rest, 0)
    | [] => (indent, [], 0)

/-- Close the block collections right of a column. -/
def closeTo (s : Scanner) (column : Int) : Scanner :=
  if s.inFlow then s
  else
    let (indent, outer, count) := unwind column s.indent s.outer
    let mark := s.cursor.mark
    { s with
      indent, outer
      tokens := s.tokens ++ (List.replicate count ⟨.blockEnd, mark, mark⟩ : List Token) }

/-- Open a block collection at a column, unless one is open there; its token goes to the given
position. -/
def openAt (s : Scanner) (column position : Nat) (kind : TokenKind) (mark : Mark) : Scanner :=
  if !s.inFlow && decide (s.indent < (column : Int)) then
    { s.insert position kind mark with outer := s.indent :: s.outer, indent := column }
  else s

/-- Open a block collection at the cursor. -/
def openHere (s : Scanner) (kind : TokenKind) : Scanner :=
  s.openAt s.cursor.mark.column s.tokens.size kind s.cursor.mark

/-- A problem at the cursor that stands for itself. -/
def misplaced (s : Scanner) (problem : String) : SyntaxError :=
  .malformed problem s.cursor.mark none

/-- Move over blanks, comments and line breaks to the next token.  A new line outside flow
collections may begin with a key.  The fuel bounds the number of lines. -/
def toNextToken : Nat → Scanner → Scanner
  | 0, s => s
  | fuel + 1, s =>
    let c := s.cursor
    -- A byte order mark may begin any line.
    let c := if c.mark.column = 0 ∧ c.char.toNat = 0xFEFF then c.skip else c
    -- Where a key may begin, a tab would be taken for indentation.
    let tabs := s.inFlow || !s.keyAllowed
    let c := c.skipWhile fun x => x == ' ' || (tabs && x == '\t')
    let c := if c.char = '#' then c.skipWhile fun x => !isBreakOrEnd x else c
    if isBreak c.char then
      toNextToken fuel
        { s with cursor := c.skipBreak, keyAllowed := s.keyAllowed || !s.inFlow }
    else { s with cursor := c }

/-- The end of the text. -/
def fetchEnd (s : Scanner) : Except SyntaxError Scanner :=
  let mark := s.cursor.mark
  -- The end stands at the start of a line of its own.
  let mark := if mark.column = 0 then mark else ⟨mark.index, mark.line + 1, 0⟩
  let s := { s with cursor := ⟨[], mark⟩ }
  match (s.closeTo (-1)).closeKey with
  | .error e => .error e
  | .ok s => .ok ({ s with keyAllowed := false }.push .streamEnd mark mark)

/-- A directive. -/
def fetchDirective (s : Scanner) : Except SyntaxError Scanner :=
  match (s.closeTo (-1)).closeKey with
  | .error e => .error e
  | .ok s =>
    match scanDirective s.cursor with
    | .error e => .error e
    | .ok (token, after) =>
      .ok { s with tokens := s.tokens.push token, cursor := after, keyAllowed := false }

/-- The start or end of a document. -/
def fetchDocumentEdge (kind : TokenKind) (s : Scanner) : Except SyntaxError Scanner :=
  match (s.closeTo (-1)).closeKey with
  | .error e => .error e
  | .ok s =>
    let after := s.cursor.skipMany 3
    .ok { s.push kind s.cursor.mark after.mark with cursor := after, keyAllowed := false }

/-- The start of a flow collection. -/
def fetchFlowStart (kind : TokenKind) (s : Scanner) : Except SyntaxError Scanner :=
  match s.openKey with
  | .error e => .error e
  | .ok s =>
    let inner := { s with outerKeys := s.key :: s.outerKeys, key := none, keyAllowed := true }
    .ok (inner.pushChar kind)

/-- The end of a flow collection. -/
def fetchFlowEnd (kind : TokenKind) (s : Scanner) : Except SyntaxError Scanner :=
  match s.closeKey with
  | .error e => .error e
  | .ok s =>
    let s :=
      match s.outerKeys with
      | [] => s
      | key :: outerKeys => { s with key, outerKeys }
    .ok ({ s with keyAllowed := false }.pushChar kind)

/-- A comma. -/
def fetchFlowEntry (s : Scanner) : Except SyntaxError Scanner :=
  match s.closeKey with
  | .error e => .error e
  | .ok s => .ok ({ s with keyAllowed := true }.pushChar .flowEntry)

/-- An indicator that begins a line of a block collection of the given kind. -/
def openLine (s : Scanner) (kind : TokenKind) (fault : String) : Except SyntaxError Scanner :=
  if s.inFlow then .ok s
  else if s.keyAllowed then .ok (s.openHere kind)
  else .error (s.misplaced fault)

/-- A hyphen before an item. -/
def fetchBlockEntry (s : Scanner) : Except SyntaxError Scanner :=
  match s.openLine .blockSequenceStart
      "block sequence entries are not allowed in this context" with
  | .error e => .error e
  | .ok s =>
    match s.closeKey with
    | .error e => .error e
    | .ok s => .ok ({ s with keyAllowed := true }.pushChar .blockEntry)

/-- A question mark before a key. -/
def fetchKey (s : Scanner) : Except SyntaxError Scanner :=
  match s.openLine .blockMappingStart "mapping keys are not allowed in this context" with
  | .error e => .error e
  | .ok s =>
    match s.closeKey with
    | .error e => .error e
    | .ok s => .ok ({ s with keyAllowed := !s.inFlow }.pushChar .key)

/-- A colon before a value: it turns an open key place into a key. -/
def fetchValue (s : Scanner) : Except SyntaxError Scanner :=
  match s.key with
  | some place =>
    -- The key comes before the tokens that have been read since, and a mapping before the key.
    let keyed := s.insert place.position .key place.mark
    let opened := keyed.openAt place.mark.column place.position .blockMappingStart place.mark
    .ok ({ opened with key := none, keyAllowed := false }.pushChar .value)
  | none =>
    match s.openLine .blockMappingStart "mapping values are not allowed in this context" with
    | .error e => .error e
    | .ok s => .ok ({ s with keyAllowed := !s.inFlow }.pushChar .value)

/-- An anchor or alias. -/
def fetchName (what : String) (kind : String → TokenKind) (s : Scanner) :
    Except SyntaxError Scanner :=
  match s.openKey with
  | .error e => .error e
  | .ok s =>
    match scanName what s.cursor with
    | .error e => .error e
    | .ok (name, after) =>
      .ok { s.push (kind name) s.cursor.mark after.mark with
        cursor := after, keyAllowed := false }

/-- A tag. -/
def fetchTag (s : Scanner) : Except SyntaxError Scanner :=
  match s.openKey with
  | .error e => .error e
  | .ok s =>
    match scanTag s.inFlow s.cursor with
    | .error e => .error e
    | .ok (tag, after) =>
      .ok { s.push (.tag tag) s.cursor.mark after.mark with cursor := after, keyAllowed := false }

/-- Add a scalar that was read. -/
def pushScalar (s : Scanner) (style : ScalarStyle) (keyAllowed : Bool) (scalar : ScannedScalar) :
    Scanner :=
  { s.push (.scalar style (String.ofList scalar.text)) s.cursor.mark scalar.stop with
    cursor := scalar.after, keyAllowed }

/-- A block scalar. -/
def fetchBlockScalar (style : ScalarStyle) (s : Scanner) : Except SyntaxError Scanner :=
  match s.closeKey with
  | .error e => .error e
  | .ok s => (scanBlock (style == .folded) s.indent s.cursor).map (s.pushScalar style true)

/-- A quoted scalar. -/
def fetchQuoted (style : ScalarStyle) (kind : QuoteKind) (s : Scanner) :
    Except SyntaxError Scanner :=
  match s.openKey with
  | .error e => .error e
  | .ok s => (scanQuoted kind s.cursor).map (s.pushScalar style false)

/-- A plain scalar. -/
def fetchPlain (s : Scanner) : Except SyntaxError Scanner :=
  match s.openKey with
  | .error e => .error e
  | .ok s =>
    (scanPlain s.inFlow (s.indent + 1).toNat s.cursor).map fun scalar =>
      s.pushScalar .plain scalar.newLine scalar

/-- Characters that a plain scalar does not begin with, unless they are followed by one that
makes them part of it. -/
def isIndicator (c : Char) : Bool :=
  "-?:,[]#&*!|>'%@".toList.contains c || c == '"' || c == '\x7b' || c == '\x7d' ||
    c == Char.ofNat 0x60

/-- Whether a plain scalar begins here. -/
def beginsPlain (s : Scanner) : Bool :=
  let c := s.cursor.char
  let next := s.cursor.at? 1
  (!endsWord c && !isIndicator c) || (c == '-' && !isSpaceOrTab next) ||
    (!s.inFlow && (c == '?' || c == ':') && !endsWord next)

/-- The token at the cursor. -/
def fetch (s : Scanner) : Except SyntaxError Scanner :=
  let c := s.cursor
  let x := c.char
  -- In a flow collection a question mark or colon needs no blank behind it.
  let indicates := s.inFlow || endsWord (c.at? 1)
  if c.atEnd then s.fetchEnd
  else if c.mark.column = 0 ∧ x = '%' then s.fetchDirective
  else if c.atDocumentMark '-' then s.fetchDocumentEdge .documentStart
  else if c.atDocumentMark '.' then s.fetchDocumentEdge .documentEnd
  else if x = '[' then s.fetchFlowStart .flowSequenceStart
  else if x = '\x7b' then s.fetchFlowStart .flowMappingStart
  else if x = ']' then s.fetchFlowEnd .flowSequenceEnd
  else if x = '\x7d' then s.fetchFlowEnd .flowMappingEnd
  else if x = ',' then s.fetchFlowEntry
  else if x = '-' ∧ endsWord (c.at? 1) then s.fetchBlockEntry
  else if x = '?' ∧ indicates then s.fetchKey
  else if x = ':' ∧ indicates then s.fetchValue
  else if x = '*' then s.fetchName "while scanning an alias" .alias
  else if x = '&' then s.fetchName "while scanning an anchor" .anchor
  else if x = '!' then s.fetchTag
  else if x = '|' ∧ !s.inFlow then s.fetchBlockScalar .literal
  else if x = '>' ∧ !s.inFlow then s.fetchBlockScalar .folded
  else if x = '\'' then s.fetchQuoted .singleQuoted .single
  else if x = '"' then s.fetchQuoted .doubleQuoted .double
  else if s.beginsPlain then s.fetchPlain
  else
    .error (c.problem "while scanning for the next token" c.mark
      "found character that cannot start any token")

/-- The next token, with the collections closed before it. -/
def step (s : Scanner) : Except SyntaxError Scanner :=
  match (toNextToken (s.cursor.rest.length + 1) s).dropStaleKeys with
  | .error e => .error e
  | .ok s =>
    match (s.closeTo s.cursor.mark.column).fetch with
    | .error e => .error e
    | .ok s => s.dropStaleKeys

/-- The number of tokens before the first open key place. -/
def settled (s : Scanner) : Nat :=
  ((s.key :: s.outerKeys).filterMap fun place => place.map KeyPlace.position).foldl min
    s.tokens.size

/-- Cut a text to its end; the fuel bounds the number of steps. -/
def run : Nat → Scanner → TokenStream
  | 0, s => ⟨s.tokens.toList, none⟩
  | fuel + 1, s =>
    match s.step with
    -- A token behind an open key place may yet get a key in front of it.
    | .error e => ⟨s.tokens.toList.take s.settled, some e⟩
    | .ok next =>
      match next.tokens.back? with
      | some ⟨.streamEnd, _, _⟩ => ⟨next.tokens.toList, none⟩
      | _ => run fuel next

end Scanner

/-- The tokens of a text. -/
def TokenStream.ofText (text : String) : TokenStream :=
  let chars := text.toList
  match controlOffset? chars 0 with
  | some offset => ⟨[], some (.control offset)⟩
  | none => Scanner.run (chars.length + 2) { cursor := ⟨chars, {}⟩ }

end TransferGateway.Yaml
