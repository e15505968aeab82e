import TransferGateway.Yaml.Reading

/-!
# Values read before their type is known

A mapping that says by one of its fields how the others are meant is read as a whole first.
Within it every scalar has the type it is written as, so that a number is no text there.
-/

namespace TransferGateway.Yaml

/-- A value of any type. -/
inductive Content where
  | scalar (value : ScalarValue)
  | sequence (items : List Content)
  | mapping (entries : List (Content × Content))
deriving Repr, Inhabited

/-- What a message calls a value that does not fit. -/
def Content.description : Content → String
  | .scalar v => v.description
  | .sequence _ => "sequence"
  | .mapping _ => "map"

/-- Whether a node has a tag of the document's own with a name.  Such a tag names a choice, and
a choice cannot be read before the type is known. -/
def hasChoice (p : NodeProperties) : Bool := (p.tag.bind Tag.name?).isSome

/-- The value of a scalar of any type. -/
def scalarContent (expected : String) (p : NodeProperties) (s : Scalar) :
    Except ReadError Content :=
  if hasChoice p then .error (.strayTag none)
  else
    match s.value p.tag with
    | .error message => .error (.plain message)
    | .ok (.wide hasSign n) =>
      .error (.plain (invalidType (ScalarValue.wide hasSign n).description expected))
    | .ok v => .ok (.scalar v)

/-- Read items of any type from an index on. -/
def contentItems (reader : Reader Content) (ctx : ReadContext) :
    Nat → List Node → ReadM (List Content)
  | _, [] => return []
  | index, node :: rest => do
    let first ← reader (ctx.item index) node
    let others ← contentItems reader ctx (index + 1) rest
    return first :: others

/-- Read entries of any type. -/
def contentEntries (reader : Reader Content) (ctx : ReadContext) :
    List (Node × Node) → ReadM (List (Content × Content))
  | [] => return []
  | (key, value) :: rest => do
    let first ← reader ctx key
    let second ← reader (ctx.value key) value
    let others ← contentEntries reader ctx rest
    return (first, second) :: others

/-- What is expected where a value may be of any type. -/
def anyValue : String := "any value"

/-- Read a value of any type, in which so many collections may be nested.  What is expected of
it is only told when it is an integer that is too wide. -/
def readContent : Nat → String → Reader Content
  | 0, expected, ctx, node => do
    match ← ctx.resolve node with
    | .scalar p s => ctx.tellPlace p.mark (scalarContent expected p s)
    | .sequence p _ => throw (.notYaml (.tooDeep p.mark))
    | .mapping p _ => throw (.notYaml (.tooDeep p.mark))
    | other => wrongType expected ctx other
  | inner + 1, expected, ctx, node => do
    match ← ctx.resolve node with
    | .scalar p s => ctx.tellPlace p.mark (scalarContent expected p s)
    | .sequence p items =>
      ctx.tellPlace p.mark
        (if hasChoice p then throw (.strayTag none)
        else .sequence <$> contentItems (readContent inner anyValue) ctx 0 items)
    | .mapping p entries =>
      ctx.tellPlace p.mark
        (if hasChoice p then throw (.strayTag none)
        else .mapping <$> contentEntries (readContent inner anyValue) ctx entries)
    | other => wrongType expected ctx other

/-- A variant and the values that go with it. -/
structure Variant (α : Type) where
  chosen : α
  content : Content

/-- Read the name of a variant. -/
def readVariantName {α : Type} (options : List (String × α)) : Reader α := fun ctx node => do
  match ← ctx.resolve node with
  | .scalar p s => ctx.tellPlace p.mark (choose options s.text)
  | other => wrongType "variant identifier" ctx other

/-- A key of a mapping with a variant: that of the variant's name, or another one. -/
def isVariantKey (field : String) (key : Content) : Bool :=
  match key with
  | .scalar (.text name) => name == field
  | _ => false

/-- Read the entries of a mapping with a variant. -/
def variantEntries {α : Type} (field : String) (options : List (String × α)) (ctx : ReadContext) :
    Option α → List (Content × Content) → List (Node × Node) → ReadM (Variant α)
  | chosen, before, [] => do
    return ⟨← required field chosen, .mapping before.reverse⟩
  | chosen, before, (key, value) :: rest => do
    let name ←
      readContent ctx.depth ("a type tag \x60" ++ field ++ "\x60 or any other value") ctx key
    if isVariantKey field name then
      let next ← readField field chosen (readVariantName options) (ctx.value key) value
      variantEntries field options ctx next before rest
    else
      let content ← readContent ctx.depth anyValue (ctx.value key) value
      variantEntries field options ctx chosen ((name, content) :: before) rest

/-- Read the items of a sequence with a variant: the first is its name. -/
def variantItems {α : Type} (field : String) (options : List (String × α)) (ctx : ReadContext) :
    List Node → ReadM (Variant α)
  | [] => throw (missingField field)
  | name :: rest => do
    let chosen ← readVariantName options (ctx.item 0) name
    return ⟨chosen, .sequence (← contentItems (readContent ctx.depth anyValue) ctx 1 rest)⟩

/-- Read a variant that is named by one of the fields beside its own. -/
def readVariant {α : Type} (name field : String) (options : List (String × α)) :
    Reader (Variant α) := fun ctx node => do
  let expected := "internally tagged enum " ++ name
  let tagged := fun (p : NodeProperties) (read : ReadM (Variant α)) =>
    ctx.tellPlace p.mark
      (if hasChoice p then throw (.plain (invalidType "enum" expected)) else read)
  match ← ctx.resolve node with
  | .scalar p s => tagged p (wrongType expected ctx (.scalar p s))
  | .sequence p items => tagged p (do variantItems field options (← ctx.enter p.mark) items)
  | .mapping p entries =>
    tagged p (do variantEntries field options (← ctx.enter p.mark) none [] entries)
  | other => wrongType expected ctx other

namespace Content

/-- The error of a value that is of the wrong type. -/
def misfit {α : Type} (c : Content) (expected : String) : Except ReadError α :=
  .error (.plain (invalidType c.description expected))

/-- A text. -/
def text (c : Content) : Except ReadError String :=
  match c with
  | .scalar (.text s) => .ok s
  | other => other.misfit "a string"

/-- An integer without sign. -/
def unsigned (bits : Nat) (c : Content) : Except ReadError Nat :=
  match c with
  | .scalar (.unsigned n) => narrow bits n
  | .scalar (.signed n) =>
    if 0 ≤ n then narrow bits n.toNat
    else
      .error (.plain (invalidValue (ScalarValue.signed n).description (unsignedName bits)))
  | other => other.misfit (unsignedName bits)

/-- The field that a key names, by its name or its number. -/
def fieldName (names : List String) (key : Content) : Except ReadError String :=
  match key with
  | .scalar (.text s) => .ok s
  | .scalar (.unsigned n) => .ok ((names[n]?).getD "")
  | other => other.misfit "field identifier"

/-- The error of a list of the wrong length. -/
def wrongLength (length : Nat) (expected : String) : ReadError :=
  .plain ("invalid length " ++ toString length ++ ", expected " ++ expected)

/-- What a list of fixed length is called. -/
def elements (n : Nat) : String :=
  if n = 1 then "1 element in sequence" else toString n ++ " elements in sequence"

end Content

end TransferGateway.Yaml
