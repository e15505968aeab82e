import TransferGateway.Table
import TransferGateway.Yaml.Document
import TransferGateway.Yaml.Typing

/-!
# Reading values from nodes

Readers for texts, numbers, choices, lists and records.  An error carries the place and the path
of the innermost collection or scalar that has one; an error without place gets that of what is
around it.  A read may follow only so many aliases, whose number depends on the size of the
document, because a short text can repeat itself without end.
-/

namespace TransferGateway.Yaml

/-- Where in a document an error arose. -/
structure ErrorPlace where
  mark : Mark
  /-- The path of keys and indices; empty at the root. -/
  path : String
deriving DecidableEq, Repr, Inhabited

/-- Why a document does not hold what is read from it. -/
inductive ReadError where
  /-- The text is not YAML. -/
  | notYaml (cause : SyntaxError)
  /-- A value does not fit. -/
  | misfit (what : String) (place : Option ErrorPlace)
  /-- A tag of the document's own stands where the type is not known yet. -/
  | strayTag (place : Option ErrorPlace)
deriving DecidableEq, Repr, Inhabited

namespace ReadError

/-- A misfit whose place is still to be told. -/
def plain (what : String) : ReadError := .misfit what none

/-- Tell the place of an error that has none. -/
def placed (mark : Mark) (path : String) : ReadError → ReadError
  | .misfit what none => .misfit what (some ⟨mark, path⟩)
  | .strayTag none => .strayTag (some ⟨mark, path⟩)
  | e => e

/-- What is wrong, behind the path where it is. -/
def underPath (what : String) : Option ErrorPlace → String
  | none => what
  | some place => if place.path.isEmpty then what else place.path ++ ": " ++ what

/-- What is wrong, with the path and the place in the text. -/
def located (what : String) (place : Option ErrorPlace) : String :=
  underPath what place ++
    match place with
    | none => ""
    | some p => p.mark.ending

/-- The text of an error with its place in the text. -/
def message : ReadError → String
  | .notYaml cause => cause.message
  | .misfit what place => located what place
  | .strayTag place =>
    located "untagged and internally tagged enums do not support enum input" place

end ReadError

/-- A field that must be there is not. -/
def missingField (name : String) : ReadError :=
  .plain ("missing field \x60" ++ name ++ "\x60")

/-- A field is there twice. -/
def duplicateField (name : String) : ReadError :=
  .plain ("duplicate field \x60" ++ name ++ "\x60")

/-- The names that could have been chosen. -/
def alternatives : List String → String
  | [a] => "\x60" ++ a ++ "\x60"
  | [a, b] => "\x60" ++ a ++ "\x60 or \x60" ++ b ++ "\x60"
  | names => "one of " ++ ", ".intercalate (names.map fun name => "\x60" ++ name ++ "\x60")

/-- A name is none of those that can be chosen. -/
def unknownVariant (name : String) (names : List String) : ReadError :=
  .plain ("unknown variant \x60" ++ name ++ "\x60, expected " ++ alternatives names)

/-- What a reader knows of the place it reads at. -/
structure ReadContext where
  /-- The nodes that aliases stand for; of several with one number the first counts. -/
  targets : List (Nat × Node)
  /-- The path from the root; empty there. -/
  path : String := ""
  /-- How many more collections may be nested. -/
  depth : Nat := 128

/-- A part of the reading of a document: it knows how many more aliases may be followed. -/
abbrev ReadM := StateT Nat (Except ReadError)

/-- A reader of values. -/
abbrev Reader (α : Type) := ReadContext → Node → ReadM α

namespace ReadContext

/-- The context of an item. -/
def item (ctx : ReadContext) (index : Nat) : ReadContext :=
  { ctx with
    path := (if ctx.path.isEmpty then "." else ctx.path) ++ "[" ++ toString index ++ "]" }

/-- The context of a value; a key that is no scalar shows as a question mark. -/
def value (ctx : ReadContext) (key : Node) : ReadContext :=
  let name :=
    match key with
    | .scalar _ s => s.text
    | _ => "?"
  { ctx with path := if ctx.path.isEmpty then name else ctx.path ++ "." ++ name }

/-- The context inside a collection. -/
def enter (ctx : ReadContext) (mark : Mark) : ReadM ReadContext :=
  match ctx.depth with
  | 0 => throw (.notYaml (.tooDeep mark))
  | depth + 1 => return { ctx with depth }

/-- Tell the place of an error that has none. -/
def tellPlace {α : Type} (ctx : ReadContext) (mark : Mark) (read : ReadM α) : ReadM α :=
  fun left => (read left).mapError fun e => e.placed mark ctx.path

/-- The node of an anchor number. -/
def target (ctx : ReadContext) (anchor : Nat) : Node :=
  match ctx.targets.find? fun entry => entry.1 == anchor with
  | some entry => entry.2
  | none => .absent {}

/-- The node that an alias stands for; any other stands for itself. -/
def resolve (ctx : ReadContext) : Node → ReadM Node
  | .alias _ anchor => do
    match ← get with
    | 0 => throw (.notYaml .tooManyAliases)
    | left + 1 =>
      set left
      return ctx.target anchor
  | node => return node

end ReadContext

/-- The error of a node that is of the wrong type. -/
def wrongType {α : Type} (expected : String) : Reader α := fun ctx node =>
  match node with
  | .broken cause => throw (.notYaml cause)
  | .scalar p s =>
    let what :=
      match s.value p.tag with
      | .ok v => invalidType v.description expected
      | .error message => message
    ctx.tellPlace p.mark (throw (.plain what))
  | .sequence p _ => ctx.tellPlace p.mark (throw (.plain (invalidType "sequence" expected)))
  | .mapping p _ => ctx.tellPlace p.mark (throw (.plain (invalidType "map" expected)))
  | .alias mark _ => ctx.tellPlace mark (throw (.plain "EOF while parsing a value"))
  | .absent _ => throw (.plain "EOF while parsing a value")

/-- Read the text of a scalar, whatever its type. -/
def readText (expected : String) : Reader String := fun ctx node => do
  match ← ctx.resolve node with
  | .scalar _ s => return s.text
  | other => wrongType expected ctx other

/-- Read a text and take it further; the message says why it is no good. -/
def readParsed {α : Type} (expected : String) (parse : String → Option α) : Reader α :=
  fun ctx node => do
    match ← ctx.resolve node with
    | .scalar p s =>
      match parse s.text with
      | some a => return a
      | none =>
        ctx.tellPlace p.mark
          (throw (.plain (invalidValue (ScalarValue.text s.text).description expected)))
    | other => wrongType expected ctx other

/-- Read a truth value. -/
def readBoolean : Reader Bool := fun ctx node => do
  match ← ctx.resolve node with
  | .scalar p s =>
    match if s.mayHold p.tag .boolean then boolean? s.text else none with
    | some b => return b
    | none => wrongType "a boolean" ctx (.scalar p s)
  | other => wrongType "a boolean" ctx other

/-- The name of an integer type without sign. -/
def unsignedName (bits : Nat) : String := "u" ++ toString bits

/-- An integer of 64 bits as one of fewer. -/
def narrow (bits : Nat) (n : Nat) : Except ReadError Nat :=
  if n < Nat.pow 2 bits then .ok n
  else .error (.plain (invalidValue (ScalarValue.unsigned n).description (unsignedName bits)))

/-- Read an integer without sign of at most 64 bits. -/
def readUnsigned (bits : Nat) : Reader Nat := fun ctx node => do
  match ← ctx.resolve node with
  | .scalar p s =>
    match if s.mayHold p.tag .integer then unsignedText? 64 s.text.toList else none with
    | some n => ctx.tellPlace p.mark (narrow bits n)
    | none => wrongType (unsignedName bits) ctx (.scalar p s)
  | other => wrongType (unsignedName bits) ctx other

/-- Read a floating-point number; an integer is one, too. -/
def readFloat : Reader Binary64 := fun ctx node => do
  match ← ctx.resolve node with
  | .scalar p s =>
    match if s.mayHold p.tag .float then floatText? s.text else none with
    | some x => return x
    | none => wrongType "f64" ctx (.scalar p s)
  | other => wrongType "f64" ctx other

/-- Whether a scalar stands for nothing where a value may be left out. -/
def isNothing (tag : Option Tag) (s : Scalar) : Except ReadError Bool :=
  if s.style ≠ .plain then .ok false
  else
    match tag with
    | none => .ok (s.text.isEmpty || isNullText s.text)
    | some t =>
      if t ≠ .null then .ok false
      else if isNullText s.text then .ok true
      else .error (.plain (invalidValue (ScalarValue.text s.text).description "null"))

/-- Read a value that may be left out. -/
def readOptional {α : Type} (reader : Reader α) : Reader (Option α) := fun ctx node => do
  match ← ctx.resolve node with
  | .scalar p s =>
    if ← isNothing p.tag s then return none
    else return some (← reader ctx (.scalar p s))
  | .absent _ => return none
  | other => return some (← reader ctx other)

/-- What a choice made by a tag must be followed by: nothing. -/
def readNothing : Reader Unit := fun ctx node =>
  match node with
  | .scalar p s =>
    if s.style = .plain ∧ (s.text.isEmpty ∨ isNullText s.text) then return
    else
      ctx.tellPlace p.mark
        (throw (.plain (invalidValue (ScalarValue.text s.text).description "null")))
  | other => wrongType "unit" ctx other

/-- The choice of a name. -/
def choose {α : Type} (options : List (String × α)) (name : String) : Except ReadError α :=
  match options.find? fun option => option.1 == name with
  | some option => .ok option.2
  | none => .error (unknownVariant name (options.map Prod.fst))

/-- A choice made by a tag in front of nothing. -/
def readTagged {α : Type} (options : List (String × α)) (name : String) : Reader α :=
  fun ctx node => do
    let chosen ← choose options name
    readNothing ctx node
    return chosen

/-- What a collection without tag should have been where a choice is made. -/
def choiceExpected : String := "a YAML tag starting with '!'"

/-- Read a choice between names: a scalar with the name, or a tag with it. -/
def readChoice {α : Type} (options : List (String × α)) : Reader α := fun ctx node => do
  match ← ctx.resolve node with
  | .scalar p s =>
    match p.tag.bind Tag.name? with
    | some name => readTagged options name ctx (.scalar p s)
    | none => ctx.tellPlace p.mark (choose options s.text)
  | .sequence p items =>
    match p.tag.bind Tag.name? with
    | some name => readTagged options name ctx (.sequence p items)
    | none => wrongType choiceExpected ctx (.sequence p items)
  | .mapping p entries =>
    match p.tag.bind Tag.name? with
    | some name => readTagged options name ctx (.mapping p entries)
    | none => wrongType choiceExpected ctx (.mapping p entries)
  | other => wrongType choiceExpected ctx other

/-- Pass over a value that nobody asked for. -/
def ignore (node : Node) : ReadM Unit :=
  match node.failure? with
  | some cause => throw (.notYaml cause)
  | none => return

/-- Read items from an index on. -/
def readItems {α : Type} (reader : Reader α) (ctx : ReadContext) :
    Nat → List Node → ReadM (List α)
  | _, [] => return []
  | index, node :: rest => do
    let first ← reader (ctx.item index) node
    let others ← readItems reader ctx (index + 1) rest
    return first :: others

/-- Read a list; nothing at all is an empty one. -/
def readList {α : Type} (reader : Reader α) : Reader (List α) := fun ctx node => do
  match ← ctx.resolve node with
  | .scalar p s => if s.isVoid then return [] else wrongType "a sequence" ctx (.scalar p s)
  | .sequence p items =>
    ctx.tellPlace p.mark (do readItems reader (← ctx.enter p.mark) 0 items)
  | other => wrongType "a sequence" ctx other

/-- One step of reading a mapping: the key, the context of the value, and the value. -/
abbrev EntryStep (σ : Type) := σ → String → ReadContext → Node → ReadM σ

/-- Read the entries of a mapping in order. -/
def readEntries {σ : Type} (keyName : String) (step : EntryStep σ) (ctx : ReadContext) :
    σ → List (Node × Node) → ReadM σ
  | state, [] => return state
  | state, (key, value) :: rest => do
    let name ← readText keyName ctx key
    let next ← step state name (ctx.value key) value
    readEntries keyName step ctx next rest

/-- Read a mapping: its entries one after the other, and then the whole.  Nothing at all is an
empty one. -/
def readMapping {σ α : Type} (expected keyName : String) (start : σ) (step : EntryStep σ)
    (finish : σ → Except ReadError α) : Reader α := fun ctx node => do
  match ← ctx.resolve node with
  | .mapping p entries =>
    ctx.tellPlace p.mark (do finish (← readEntries keyName step (← ctx.enter p.mark) start entries))
  | .scalar p s =>
    if s.isVoid then ctx.tellPlace p.mark (finish start) else wrongType expected ctx (.scalar p s)
  | .absent mark => ctx.tellPlace mark (finish start)
  | other => wrongType expected ctx other

/-- Read a record from a mapping with its field names as keys. -/
def readRecord {σ α : Type} (name : String) (start : σ) (step : EntryStep σ)
    (finish : σ → Except ReadError α) : Reader α :=
  readMapping ("struct " ++ name) "field identifier" start step finish

/-- Read a mapping from texts to values. -/
def readTable {α : Type} (reader : Reader α) : Reader (Table α) :=
  readMapping "a map" "a string" (Table.empty : Table α)
    (fun table key ctx value => do return table.insert key (← reader ctx value))
    (fun table => .ok table)

/-- Read a field of a record, unless it has been there before. -/
def readField {α : Type} (name : String) (before : Option α) (reader : Reader α)
    (ctx : ReadContext) (value : Node) : ReadM (Option α) := do
  match before with
  | some _ => throw (duplicateField name)
  | none => return some (← reader ctx value)

/-- The value of a field that must be there. -/
def required {α : Type} (name : String) : Option α → Except ReadError α
  | some a => .ok a
  | none => .error (missingField name)

/-- How many aliases may be followed for each part of a document. -/
def aliasesPerPart : Nat := 100

/-- Read a whole text. -/
def readDocument {α : Type} (reader : Reader α) (text : String) : Except ReadError α :=
  let document := Document.ofText text
  match reader { targets := document.targets } document.root (aliasesPerPart * document.size) with
  | .error e => .error e
  | .ok (a, _) =>
    match document.ending with
    | some cause => .error (.notYaml cause)
    | none => .ok a

end TransferGateway.Yaml
