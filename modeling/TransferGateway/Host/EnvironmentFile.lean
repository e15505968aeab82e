import TransferGateway.Host.Basic
import TransferGateway.Text.Alphanumeric
import TransferGateway.Text.Blank

/-!
# Environment files

Variables written in a file, a line each: a name, an equals sign and a value, which may be quoted
and may refer to other variables.  Variables that are set already keep their values.  Reading
stops at the first line that is malformed; the ones before it count.
-/

namespace TransferGateway.EnvironmentFile

/-! ## Lines -/

/-- Where a line stands at its end. -/
inductive LineState where
  | complete
  | blank
  | escape
  | weak
  | weakEscape
  | strong
  | strongEscape
deriving DecidableEq, Repr

/-- The state after a character outside quotes. -/
def LineState.outside (c : Char) : LineState :=
  if c = '\\' then .escape else if c = '"' then .weak else if c = '\'' then .strong else .complete

/-- The state after a character; nothing if a comment begins there. -/
def LineState.next (s : LineState) (c : Char) : Option LineState :=
  match s with
  | .complete =>
    if Text.isBlank c ∧ c ≠ '\n' ∧ c ≠ '\r' then some .blank else some (outside c)
  | .blank => if c = '#' then none else some (outside c)
  | .escape => some .complete
  | .weak => if c = '\\' then some .weakEscape else if c = '"' then some .complete else some .weak
  | .weakEscape => some .weak
  | .strong =>
    if c = '\\' then some .strongEscape else if c = '\'' then some .complete else some .strong
  | .strongEscape => some .strong

/-- The part of a line in front of a comment, with its state; nothing is left of the state when
a comment ends the line. -/
def scanLine (s : LineState) : List Char → List Char × Option LineState
  | [] => ([], some s)
  | c :: rest =>
    match s.next c with
    | none => ([], none)
    | some s =>
      let (taken, state) := scanLine s rest
      (c :: taken, state)

/-- Lines with their breaks. -/
def physicalLines : List Char → List (List Char)
  | [] => []
  | c :: rest =>
    if c = '\n' then [c] :: physicalLines rest
    else
      match physicalLines rest with
      | [] => [[c]]
      | line :: others => (c :: line) :: others

/-- A line without its break. -/
def dropBreak (line : List Char) : List Char :=
  let line := if line.getLast? = some '\n' then line.dropLast else line
  if line.getLast? = some '\r' then line.dropLast else line

/-- Join lines that belong together: a quote or an escape goes on in the next one.  At the end
stands nothing if the last line is not complete. -/
def logicalLines (state : LineState) (taken : List Char) :
    List (List Char) → List (Option (List Char))
  | [] => if state = .complete then [] else [none]
  | line :: rest =>
    if (Text.trimStart (taken ++ line)).head? = some '#' then
      some [] :: logicalLines .complete [] rest
    else
      match scanLine state line with
      | (part, none) => some (taken ++ part) :: logicalLines .complete [] rest
      | (_, some .complete) =>
        some (if line.getLast? = some '\n' then dropBreak (taken ++ line) else taken ++ line) ::
          logicalLines .complete [] rest
      | (_, some state) => logicalLines state (taken ++ line) rest

/-! ## Values -/

/-- Where a value refers to a variable. -/
inductive Reference where
  | none
  /-- Behind a dollar sign. -/
  | bare (name : List Char)
  /-- Between braces. -/
  | braced (name : List Char)
deriving DecidableEq, Repr

/-- A value while it is read. -/
structure ValueState where
  output : List Char := []
  strong : Bool := false
  weak : Bool := false
  escaped : Bool := false
  /-- Only blanks or a comment may follow. -/
  finished : Bool := false
  reference : Reference := .none

namespace ValueState

/-- Add a character. -/
def add (v : ValueState) (c : Char) : ValueState := { v with output := v.output ++ [c] }

/-- Add the value of a variable. -/
def addVariable (lookup : String → String) (v : ValueState) (name : List Char) : ValueState :=
  { v with output := v.output ++ (lookup (String.ofList name)).toList, reference := .none }

/-- A character inside a reference. -/
def referTo (lookup : String → String) (v : ValueState) (c : Char) : ValueState :=
  match v.reference with
  | .none => v.add c
  | .bare name =>
    if Text.isAlphanumeric c then { v with reference := .bare (name ++ [c]) }
    else if c = '\x7b' ∧ name = [] then { v with reference := .braced [] }
    else
      let v := v.addVariable lookup name
      if c = '$' then { v with reference := .bare [] } else v.add c
  | .braced name =>
    if c = '\x7d' then v.addVariable lookup name
    else { v with reference := .braced (name ++ [c]) }

/-- A character that is neither escaped nor in a reference nor between single quotes. -/
def plain (v : ValueState) (c : Char) : ValueState :=
  if c = '$' then { v with reference := .bare [] }
  else if c = '\\' then { v with escaped := true }
  else if v.weak then if c = '"' then { v with weak := false } else v.add c
  else if c = '\'' then { v with strong := true }
  else if c = '"' then { v with weak := true }
  else if c = ' ' ∨ c = '\t' then { v with finished := true }
  else v.add c

end ValueState

/-- The end of a value: a reference that is still open counts if it has no braces. -/
def finishValue? (lookup : String → String) (v : ValueState) : Option String :=
  if v.strong ∨ v.weak then none
  else
    match v.reference with
    | .braced _ => none
    | .bare name => some (String.ofList (v.addVariable lookup name).output)
    | .none => some (String.ofList v.output)

/-- Read a value from a place on. -/
def valueFrom? (lookup : String → String) (v : ValueState) : List Char → Option String
  | [] => finishValue? lookup v
  | c :: rest =>
    if v.finished then
      if c = ' ' ∨ c = '\t' then valueFrom? lookup v rest
      else if c = '#' then finishValue? lookup v
      else none
    else if v.escaped then
      let v := { v with escaped := false }
      if "\\'\"$ ".toList.contains c then valueFrom? lookup (v.add c) rest
      else if c = 'n' then valueFrom? lookup (v.add '\n') rest
      else none
    else if v.strong then
      valueFrom? lookup (if c = '\'' then { v with strong := false } else v.add c) rest
    else if v.reference ≠ .none then valueFrom? lookup (v.referTo lookup c) rest
    else valueFrom? lookup (v.plain c) rest

/-! ## Assignments -/

/-- Whether a name may begin so. -/
def beginsName (c : Char) : Bool := c.isAlpha || c == '_'

/-- Whether a character can be in a name. -/
def isNameChar (c : Char) : Bool := c.isAlphanum || c == '_' || c == '.'

/-- A name at the start of a text, and what follows. -/
def name? : List Char → Option (List Char × List Char)
  | c :: rest =>
    if beginsName c then some ((c :: rest).takeWhile isNameChar, (c :: rest).dropWhile isNameChar)
    else none
  | [] => none

/-- What follows an equals sign, after blanks on both sides. -/
def afterEquals? (s : List Char) : Option (List Char) :=
  match Text.trimStart s with
  | '=' :: rest => some (Text.trimStart rest)
  | _ => none

/-- A name and what it is set to, after an optional word in front. -/
def assignment? (s : List Char) : Option (List Char × List Char) :=
  (name? s).bind fun (name, rest) =>
    match afterEquals? rest with
    | some value => some (name, value)
    | none =>
      if name = "export".toList then
        (name? (Text.trimStart rest)).bind fun (name, rest) =>
          (afterEquals? rest).map fun value => (name, value)
      else none

/-- The variables of the environment, and those that the file has told so far. -/
structure Reading where
  environment : List (String × String)
  told : List (String × String) := []

namespace Reading

/-- The value of a name in a list of pairs, the last one first. -/
def find? (entries : List (String × String)) (name : String) : Option String :=
  (entries.find? fun entry => entry.1 == name).map Prod.snd

/-- The value that a reference stands for; nothing is told of a variable that is not set. -/
def lookup (r : Reading) (name : String) : String :=
  ((find? r.environment name).orElse fun () => find? r.told name).getD ""

/-- Take in an assignment. -/
def set (r : Reading) (name value : String) : Reading where
  told := (name, value) :: r.told
  environment :=
    match find? r.environment name with
    | some _ => r.environment
    | none => r.environment ++ [(name, value)]

/-- Take in a line; nothing if it is malformed. -/
def addLine? (r : Reading) (line : List Char) : Option Reading :=
  match Text.trim line with
  | [] => some r
  | '#' :: _ => some r
  | text =>
    (assignment? text).bind fun (name, value) =>
      let name := String.ofList name
      match value with
      | [] => some (r.set name "")
      | '#' :: _ => some (r.set name "")
      | _ => (valueFrom? r.lookup {} value).map (r.set name)

/-- Take in lines up to the first one that is malformed. -/
def addLines (r : Reading) : List (Option (List Char)) → Reading
  | [] => r
  | none :: _ => r
  | some line :: rest =>
    match r.addLine? line with
    | some r => r.addLines rest
    | none => r

end Reading

/-- The variables after a file has been read. -/
def variablesAfter (environment : List (String × String)) (text : String) :
    List (String × String) :=
  let chars :=
    match text.toList with
    | c :: rest => if c.toNat = 0xFEFF then rest else c :: rest
    | [] => []
  (Reading.addLines { environment } (logicalLines .complete [] (physicalLines chars))).environment

/-- The name of the file. -/
def path : String := ".env"

/-- The host after its environment file has been read, if it has one. -/
def load (host : Host) : Host :=
  match host.files.read path with
  | .ok text => { host with environment := variablesAfter host.environment text }
  | .error _ => host

end TransferGateway.EnvironmentFile
