import TransferGateway.Yaml.Node
import TransferGateway.Yaml.Scan

/-!
# From tokens to a document

The nesting of the tokens is read by recursion; fuel, computed from their number, bounds it.
Where the tokens fit no rule, or end because the text is cut short, the node that is being read
is broken and everything around it ends there.
-/

namespace TransferGateway.Yaml

/-- Tokens that are still to be read, and what is known from those before them. -/
structure Feed where
  tokens : List Token
  /-- What to report when the tokens run out. -/
  stop : SyntaxError
  /-- What the handles of tags stand for. -/
  handles : List (String × List UInt8) := []
  /-- The anchors so far, with their numbers. -/
  anchors : List (String × Nat) := []
deriving Inhabited

/-- What was read, and the tokens after it unless the document broke off. -/
abbrev Parsed (α : Type) := α × Option Feed

namespace Feed

/-- Pass one token. -/
def next (f : Feed) : Feed := { f with tokens := f.tokens.drop 1 }

/-- Give an anchor the next number; a name that is known already keeps its place. -/
def addAnchor (f : Feed) (name : String) : Nat × Feed :=
  let number := f.anchors.length
  let anchors :=
    if f.anchors.any fun entry => entry.1 == name then
      f.anchors.map fun entry => if entry.1 = name then (name, number) else entry
    else f.anchors ++ [(name, number)]
  (number, { f with anchors })

/-- The number of an anchor. -/
def anchor? (f : Feed) (name : String) : Option Nat :=
  (f.anchors.find? fun entry => entry.1 == name).map Prod.snd

/-- The tag that is meant, unless its handle is unknown. -/
def resolveTag (f : Feed) (tag : TagText) : Option Tag :=
  if tag.handle = "" then some ⟨tag.suffix⟩
  else
    (f.handles.find? fun entry => entry.1 == tag.handle).map fun entry => ⟨entry.2 ++ tag.suffix⟩

end Feed

/-- A problem in the nesting. -/
def nestingProblem (what : String) (since : Mark) (problem : String) (mark : Mark) :
    SyntaxError :=
  .malformed problem mark (some ⟨what, since⟩)

/-- The anchor and tag read in front of a node. -/
structure ReadProperties where
  anchor : Option String := none
  tag : Option (TagText × Mark) := none
  since : Option Mark := none

/-- Anchors and tags in front of a node, one of each at most. -/
def readProperties : Nat → ReadProperties → Feed → ReadProperties × Feed
  | 0, p, f => (p, f)
  | fuel + 1, p, f =>
    match f.tokens with
    | ⟨.anchor name, start, _⟩ :: _ =>
      if p.anchor.isSome then (p, f)
      else
        readProperties fuel { p with anchor := some name, since := p.since.or (some start) } f.next
    | ⟨.tag tag, start, _⟩ :: _ =>
      if p.tag.isSome then (p, f)
      else
        readProperties fuel
          { p with tag := some (tag, start), since := p.since.or (some start) } f.next
    | _ => (p, f)

/-- The places where a node can stand. -/
structure NodePlace where
  /-- Block collections may stand here. -/
  block : Bool
  /-- A block sequence may stand here without indentation of its own. -/
  indentless : Bool := false

namespace NodePlace

/-- In a block sequence, or at the root. -/
def item : NodePlace := ⟨true, false⟩

/-- In a block mapping. -/
def entry : NodePlace := ⟨true, true⟩

/-- In a flow collection. -/
def flow : NodePlace := ⟨false, false⟩

/-- What is being read when there is no node. -/
def what (p : NodePlace) : String :=
  if p.block then "while parsing a block node" else "while parsing a flow node"

end NodePlace

/-- The properties of a node with its anchor numbered and its tag in full. -/
def resolveProperties (p : ReadProperties) (mark : Mark) (f : Feed) :
    Except SyntaxError (NodeProperties × Feed) :=
  let resolved : Except SyntaxError (Option Tag) :=
    match p.tag with
    | none => .ok none
    | some (tag, tagMark) =>
      match f.resolveTag tag with
      | some resolved => .ok (some resolved)
      | none =>
        .error (nestingProblem "while parsing a node" mark "found undefined tag handle" tagMark)
  match resolved with
  | .error e => .error e
  | .ok tag =>
    match p.anchor with
    | none => .ok (⟨mark, none, tag⟩, f)
    | some name =>
      let (number, f) := f.addAnchor name
      .ok (⟨mark, some number, tag⟩, f)

mutual

/-- A node. -/
def parseNode : Nat → NodePlace → Feed → Parsed Node
  | 0, _, f => (.broken f.stop, none)
  | fuel + 1, place, f =>
    match f.tokens with
    | ⟨.alias name, start, _⟩ :: _ =>
      match f.anchor? name with
      | some number => (.alias start number, some f.next)
      | none => (.broken (.unknownAnchor start), none)
    | _ =>
      -- At most an anchor and a tag, in either order.
      let (read, after) := readProperties 2 {} f
      match after.tokens with
      | [] => (.broken after.stop, none)
      | token :: _ =>
        let mark := read.since.getD token.start
        match resolveProperties read mark after with
        | .error e => (.broken e, none)
        | .ok (properties, f) =>
          match token.kind with
          | .blockEntry =>
            if place.indentless then
              let (items, rest) := parseIndentless fuel f
              (.sequence properties items, rest)
            else parseEmpty read place properties token f
          | .scalar style text => (.scalar properties ⟨style, text⟩, some f.next)
          | .flowSequenceStart =>
            let (items, rest) := parseFlowItems fuel true token.start f.next
            (.sequence properties items, rest)
          | .flowMappingStart =>
            let (entries, rest) := parseFlowEntries fuel true token.start f.next
            (.mapping properties entries, rest)
          | .blockSequenceStart =>
            if place.block then
              let (items, rest) := parseItems fuel token.start f.next
              (.sequence properties items, rest)
            else parseEmpty read place properties token f
          | .blockMappingStart =>
            if place.block then
              let (entries, rest) := parseEntries fuel token.start f.next
              (.mapping properties entries, rest)
            else parseEmpty read place properties token f
          | _ => parseEmpty read place properties token f

/-- A node of which there are only properties; without any, a node is missing. -/
def parseEmpty (read : ReadProperties) (place : NodePlace) (properties : NodeProperties)
    (token : Token) (f : Feed) : Parsed Node :=
  if read.since.isSome then (Node.empty properties, some f)
  else
    (.broken (nestingProblem place.what properties.mark "did not find expected node content"
      token.start), none)

/-- The items of a block sequence. -/
def parseItems : Nat → Mark → Feed → Parsed (List Node)
  | 0, _, f => ([.broken f.stop], none)
  | fuel + 1, since, f =>
    match f.tokens with
    | [] => ([.broken f.stop], none)
    | ⟨.blockEntry, _, stop⟩ :: following =>
      let absent :=
        match following with
        | ⟨.blockEntry, _, _⟩ :: _ => true
        | ⟨.blockEnd, _, _⟩ :: _ => true
        | _ => false
      let (item, rest) : Parsed Node :=
        if absent then (Node.empty ⟨stop, none, none⟩, some f.next)
        else parseNode fuel .item f.next
      match rest with
      | none => ([item], none)
      | some f =>
        let (items, rest) := parseItems fuel since f
        (item :: items, rest)
    | ⟨.blockEnd, _, _⟩ :: _ => ([], some f.next)
    | token :: _ =>
      ([.broken (nestingProblem "while parsing a block collection" since
        "did not find expected '-' indicator" token.start)], none)

/-- The items of a block sequence that is not indented. -/
def parseIndentless : Nat → Feed → Parsed (List Node)
  | 0, f => ([.broken f.stop], none)
  | fuel + 1, f =>
    match f.tokens with
    | [] => ([.broken f.stop], none)
    | ⟨.blockEntry, _, stop⟩ :: following =>
      let absent :=
        match following with
        | ⟨.blockEntry, _, _⟩ :: _ => true
        | ⟨.key, _, _⟩ :: _ => true
        | ⟨.value, _, _⟩ :: _ => true
        | ⟨.blockEnd, _, _⟩ :: _ => true
        | _ => false
      let (item, rest) : Parsed Node :=
        if absent then (Node.empty ⟨stop, none, none⟩, some f.next)
        else parseNode fuel .item f.next
      match rest with
      | none => ([item], none)
      | some f =>
        let (items, rest) := parseIndentless fuel f
        (item :: items, rest)
    | _ => ([], some f)

/-- A key or value of a block mapping behind its indicator, which ends at the given place. -/
def parseEntryNode : Nat → Mark → Feed → Parsed Node
  | 0, _, f => (.broken f.stop, none)
  | fuel + 1, stop, f =>
    match f.tokens with
    | [] => (.broken f.stop, none)
    | ⟨.key, _, _⟩ :: _ => (Node.empty ⟨stop, none, none⟩, some f)
    | ⟨.value, _, _⟩ :: _ => (Node.empty ⟨stop, none, none⟩, some f)
    | ⟨.blockEnd, _, _⟩ :: _ => (Node.empty ⟨stop, none, none⟩, some f)
    | _ => parseNode fuel .entry f

/-- The entries of a block mapping. -/
def parseEntries : Nat → Mark → Feed → Parsed (List (Node × Node))
  | 0, _, f => ([(.broken f.stop, .broken f.stop)], none)
  | fuel + 1, since, f =>
    match f.tokens with
    | [] => ([(.broken f.stop, .broken f.stop)], none)
    | ⟨.blockEnd, _, _⟩ :: _ => ([], some f.next)
    | token :: _ =>
      let (key, rest) : Parsed Node :=
        if token.kind = .key then parseEntryNode fuel token.stop f.next
        else
          (.broken (nestingProblem "while parsing a block mapping" since
            "did not find expected key" token.start), none)
      match rest with
      | none => ([(key, key)], none)
      | some f =>
        let (value, rest) : Parsed Node :=
          match f.tokens with
          | [] => (.broken f.stop, none)
          | ⟨.value, _, stop⟩ :: _ => parseEntryNode fuel stop f.next
          | other :: _ => (Node.empty ⟨other.start, none, none⟩, some f)
        match rest with
        | none => ([(key, value)], none)
        | some f =>
          let (entries, rest) := parseEntries fuel since f
          ((key, value) :: entries, rest)

/-- The items of a flow sequence.  The first needs no comma before it; an item with a key
indicator is a mapping of one entry. -/
def parseFlowItems : Nat → Bool → Mark → Feed → Parsed (List Node)
  | 0, _, _, f => ([.broken f.stop], none)
  | fuel + 1, first, since, f =>
    match f.tokens with
    | [] => ([.broken f.stop], none)
    | ⟨.flowSequenceEnd, _, _⟩ :: _ => ([], some f.next)
    | token :: _ =>
      if !first && token.kind != .flowEntry then
        ([.broken (nestingProblem "while parsing a flow sequence" since
          "did not find expected ',' or ']'" token.start)], none)
      else
        let f := if first then f else f.next
        match f.tokens with
        | [] => ([.broken f.stop], none)
        | ⟨.flowSequenceEnd, _, _⟩ :: _ => ([], some f.next)
        | head :: _ =>
          let (item, rest) : Parsed Node :=
            if head.kind = .key then parsePair fuel head.start f.next
            else parseNode fuel .flow f
          match rest with
          | none => ([item], none)
          | some f =>
            let (items, rest) := parseFlowItems fuel false since f
            (item :: items, rest)

/-- A mapping of one entry in a flow sequence, behind its key indicator. -/
def parsePair : Nat → Mark → Feed → Parsed Node
  | 0, _, f => (.broken f.stop, none)
  | fuel + 1, mark, f =>
    let (key, rest) : Parsed Node :=
      match f.tokens with
      | [] => (.broken f.stop, none)
      | head :: _ =>
        if head.kind = .value ∨ head.kind = .flowEntry ∨ head.kind = .flowSequenceEnd then
          -- The token that shows the key to be missing is passed.
          (Node.empty ⟨head.stop, none, none⟩, some f.next)
        else parseNode fuel .flow f
    match rest with
    | none => (.mapping ⟨mark, none, none⟩ [(key, key)], none)
    | some f =>
      let (value, rest) : Parsed Node :=
        match f.tokens with
        | [] => (.broken f.stop, none)
        | ⟨.value, _, _⟩ :: _ =>
          match f.next.tokens with
          | [] => (.broken f.stop, none)
          | head :: _ =>
            if head.kind = .flowEntry ∨ head.kind = .flowSequenceEnd then
              -- Only the colon is passed; the token behind it ends the pair.
              (Node.empty ⟨head.start, none, none⟩, some f.next)
            else parseNode fuel .flow f.next
        | head :: _ => (Node.empty ⟨head.start, none, none⟩, some f)
      -- The pair ends where the next token begins, so there must be one.
      match rest with
      | some ⟨[], stop, _, _⟩ =>
        (.mapping ⟨mark, none, none⟩ [(key, value), (.broken stop, .broken stop)], none)
      | rest => (.mapping ⟨mark, none, none⟩ [(key, value)], rest)

/-- The entries of a flow mapping.  An item without key indicator is a key without value. -/
def parseFlowEntries : Nat → Bool → Mark → Feed → Parsed (List (Node × Node))
  | 0, _, _, f => ([(.broken f.stop, .broken f.stop)], none)
  | fuel + 1, first, since, f =>
    match f.tokens with
    | [] => ([(.broken f.stop, .broken f.stop)], none)
    | ⟨.flowMappingEnd, _, _⟩ :: _ => ([], some f.next)
    | token :: _ =>
      if !first && token.kind != .flowEntry then
        let fault := nestingProblem "while parsing a flow mapping" since
          "did not find expected ',' or '\x7d'" token.start
        ([(.broken fault, .broken fault)], none)
      else
        let f := if first then f else f.next
        match f.tokens with
        | [] => ([(.broken f.stop, .broken f.stop)], none)
        | ⟨.flowMappingEnd, _, _⟩ :: _ => ([], some f.next)
        | head :: _ =>
          let keyed := head.kind == .key
          let (key, rest) : Parsed Node :=
            if keyed then parseFlowPart fuel true f.next else parseNode fuel .flow f
          match rest with
          | none => ([(key, key)], none)
          | some f =>
            let (value, rest) : Parsed Node :=
              if keyed then parseFlowValue fuel f else parseNoValue f
            match rest with
            | none => ([(key, value)], none)
            | some f =>
              let (entries, rest) := parseFlowEntries fuel false since f
              ((key, value) :: entries, rest)

/-- A key or value of a flow mapping behind its indicator; it may be empty. -/
def parseFlowPart : Nat → Bool → Feed → Parsed Node
  | 0, _, f => (.broken f.stop, none)
  | fuel + 1, isKey, f =>
    match f.tokens with
    | [] => (.broken f.stop, none)
    | head :: _ =>
      if (isKey && head.kind == .value) || head.kind == .flowEntry ||
          head.kind == .flowMappingEnd then
        (Node.empty ⟨head.start, none, none⟩, some f)
      else parseNode fuel .flow f

/-- The value of a flow mapping, if its indicator is there. -/
def parseFlowValue : Nat → Feed → Parsed Node
  | 0, f => (.broken f.stop, none)
  | fuel + 1, f =>
    match f.tokens with
    | [] => (.broken f.stop, none)
    | ⟨.value, _, _⟩ :: _ => parseFlowPart fuel false f.next
    | head :: _ => (Node.empty ⟨head.start, none, none⟩, some f)

/-- The value of a key without key indicator: none. -/
def parseNoValue (f : Feed) : Parsed Node :=
  match f.tokens with
  | [] => (.broken f.stop, none)
  | head :: _ => (Node.empty ⟨head.start, none, none⟩, some f)

end

/-! ## Documents -/

/-- The handles that need no directive. -/
def standardHandles : List (String × List UInt8) :=
  [("!", octetsOf "!"), ("!!", Tag.standardStart)]

/-- A problem in front of a document. -/
def directiveProblem (problem : String) (mark : Mark) : SyntaxError :=
  .malformed problem mark none

/-- Directives in front of a document; the fuel bounds their number. -/
def readDirectives : Nat → Bool → List (String × List UInt8) → Feed →
    Except SyntaxError (List (String × List UInt8) × Feed)
  | 0, _, handles, f => .ok (handles, f)
  | fuel + 1, versioned, handles, f =>
    match f.tokens with
    | ⟨.version major minor, start, _⟩ :: _ =>
      if versioned then .error (directiveProblem "found duplicate %YAML directive" start)
      else if major = 1 ∧ (minor = 1 ∨ minor = 2) then readDirectives fuel true handles f.next
      else .error (directiveProblem "found incompatible YAML document" start)
    | ⟨.tagDirective handle expansion, start, _⟩ :: _ =>
      if handles.any fun entry => entry.1 == handle then
        .error (directiveProblem "found duplicate %TAG directive" start)
      else readDirectives fuel versioned (handles ++ [(handle, expansion)]) f.next
    | _ => .ok (handles, f)

/-- Whether a token is a directive or the edge of a document. -/
def TokenKind.isOutside : TokenKind → Bool
  | .version .. | .tagDirective .. | .documentStart | .documentEnd | .streamEnd => true
  | _ => false

/-- Whether a token opens a document explicitly. -/
def TokenKind.opensDocument : TokenKind → Bool
  | .version .. | .tagDirective .. | .documentStart => true
  | _ => false

/-- The root of a document that is opened explicitly. -/
def parseExplicit (fuel : Nat) (f : Feed) : Parsed Node :=
  match readDirectives fuel false [] f with
  | .error e => (.broken e, none)
  | .ok (handles, f) =>
    match f.tokens with
    | [] => (.broken f.stop, none)
    | ⟨.documentStart, _, _⟩ :: _ =>
      let f := { f.next with handles := handles ++ standardHandles }
      match f.tokens with
      | [] => (.broken f.stop, none)
      | token :: _ =>
        if token.kind.isOutside then (Node.empty ⟨token.start, none, none⟩, some f)
        else parseNode fuel .item f
    | token :: _ =>
      (.broken (directiveProblem "did not find expected <document start>" token.start), none)

/-- The root of the first document. -/
def parseRoot (fuel : Nat) (f : Feed) : Parsed Node :=
  match f.tokens with
  | [] => (.broken f.stop, none)
  | ⟨.streamEnd, start, _⟩ :: _ => (.absent start, some f)
  | token :: _ =>
    if token.kind.opensDocument then parseExplicit fuel f
    else parseNode fuel .item { f with handles := standardHandles }

/-- Whether anything but the end of the text follows the ends of documents. -/
def endsText : List Token → Bool
  | [] => false
  | ⟨.documentEnd, _, _⟩ :: rest => endsText rest
  | token :: _ => token.kind == .streamEnd

/-- What goes wrong after the root of the first document: its end cannot be read, or more
follows. -/
def endingOf (f : Feed) : Option SyntaxError :=
  match f.tokens with
  | [] => some f.stop
  | tokens => if endsText tokens then none else some .severalDocuments

/-- The first document of a stream of tokens. -/
def Document.ofTokens (stream : TokenStream) : Document :=
  let stop := stream.failure.getD (.malformed "" {} none)
  -- Along a branch of the recursion a token takes at most four units of fuel.
  let (root, rest) := parseRoot (4 * stream.tokens.length + 16) { tokens := stream.tokens, stop }
  ⟨root, rest.bind endingOf⟩

/-- The first document of a text. -/
def Document.ofText (text : String) : Document := .ofTokens (.ofText text)

end TransferGateway.Yaml
