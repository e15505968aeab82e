/-!
# Options and words

Reading the arguments of one level of a command line: options with a short and a long name, words
in fixed places, and the name of a subcommand, which ends the level.  An option is checked when
the next one begins, so that what comes first on the line decides.
-/

namespace TransferGateway.Cli

/-- An option, or a word in a fixed place. -/
structure OptionSpec where
  /-- The long name. -/
  name : String
  short : Option Char := none
  takesValue : Bool := true
  /-- Whether a text is a value of the option. -/
  accepts : String → Bool := fun _ => true

/-- A level of a command line. -/
structure Level where
  options : List OptionSpec := []
  /-- Words in fixed places. -/
  words : List OptionSpec := []
  /-- The word that takes all that follows, whatever it looks like. -/
  rest : Option OptionSpec := none
  subcommands : List String := []

/-- Why reading stops before the end of the line. -/
inductive Stop where
  /-- The line breaks a rule. -/
  | misuse
  | helpAsked
  | versionAsked
deriving DecidableEq, Repr

/-- What has been given at a level. -/
structure Matches where
  /-- Values under the names of options and words; a flag has an empty one. -/
  values : List (String × String) := []
  /-- An option or word that has not been checked yet, with its values so far. -/
  pending : Option (OptionSpec × List String) := none
  /-- The number of words in fixed places so far. -/
  placed : Nat := 0

namespace Matches

/-- The value under a name. -/
def value? (m : Matches) (name : String) : Option String :=
  (m.values.find? fun entry => entry.1 == name).map Prod.snd

/-- The values under a name. -/
def valuesOf (m : Matches) (name : String) : List String :=
  (m.values.filter fun entry => entry.1 == name).map Prod.snd

/-- Whether a name has been given. -/
def has (m : Matches) (name : String) : Bool := (m.value? name).isSome

/-- Keep values under a name that has none yet. -/
def keep (m : Matches) (spec : OptionSpec) (values : List String) : Except Stop Matches :=
  if m.has spec.name || !values.all spec.accepts then .error .misuse
  else .ok { m with values := m.values ++ values.map fun v => (spec.name, v), pending := none }

/-- Check what is pending: an option needs its value. -/
def settle (m : Matches) : Except Stop Matches :=
  match m.pending with
  | none => .ok m
  | some (_, []) => .error .misuse
  | some (spec, values) => { m with pending := none }.keep spec values

/-- Begin an option whose value is still to come. -/
def await (m : Matches) (spec : OptionSpec) : Except Stop Matches := do
  let m ← m.settle
  return { m with pending := some (spec, []) }

/-- Whether an option waits for its value. -/
def isWaiting (m : Matches) : Bool :=
  match m.pending with
  | some (_, []) => true
  | _ => false

/-- Give a value to the option that waits for it. -/
def give (m : Matches) (value : String) : Matches :=
  match m.pending with
  | some (spec, values) => { m with pending := some (spec, values ++ [value]) }
  | none => m

end Matches

namespace Level

/-- The name of the option that asks for help. -/
def helpName : String := "help"

/-- The name of the option that asks for the version. -/
def versionName : String := "version"

/-- The options of every level. -/
def commonOptions : List OptionSpec := [
  { name := helpName, short := some 'h', takesValue := false },
  { name := versionName, short := some 'V', takesValue := false }]

/-- The option of a long name. -/
def long? (level : Level) (name : String) : Option OptionSpec :=
  (level.options ++ commonOptions).find? fun spec => spec.name == name

/-- The option of a short name. -/
def short? (level : Level) (c : Char) : Option OptionSpec :=
  (level.options ++ commonOptions).find? fun spec => spec.short == some c

/-- Give a flag. -/
def giveFlag (m : Matches) (spec : OptionSpec) : Except Stop Matches := do
  let m ← m.settle
  if spec.name = helpName then .error .helpAsked
  else if spec.name = versionName then .error .versionAsked
  else m.keep spec [""]

/-- Give an option that takes a value, with the value attached if there is one. -/
def giveOption (m : Matches) (spec : OptionSpec) (attached : Option String) :
    Except Stop Matches := do
  match attached with
  | some value => (← m.settle).keep spec [value]
  | none => m.await spec

/-- The parts of a long option around its equals sign. -/
def splitLong (text : List Char) : String × Option String :=
  let name := text.takeWhile (· != '=')
  match text.drop name.length with
  | [] => (String.ofList name, none)
  | _ :: value => (String.ofList name, some (String.ofList value))

/-- Read a long option, behind its dashes; nothing if there is none of that name. -/
def readLong (level : Level) (m : Matches) (text : List Char) : Option (Except Stop Matches) :=
  let (name, attached) := splitLong text
  (level.long? name).map fun spec =>
    if spec.takesValue then giveOption m spec attached
    else
      match attached with
      | some _ => .error .misuse
      | none => giveFlag m spec

/-- The value behind a short option; an equals sign may stand in front of it. -/
def attachedValue : List Char → Option String
  | [] => none
  | '=' :: value => some (String.ofList value)
  | value => some (String.ofList value)

/-- Read short options, behind their dash: flags, and at the end one that takes a value. -/
def readShort (level : Level) (m : Matches) : List Char → Except Stop Matches
  | [] => .ok m
  | c :: rest =>
    match level.short? c with
    | none => .error .misuse
    | some spec =>
      if spec.takesValue then giveOption m spec (attachedValue rest)
      else
        match giveFlag m spec with
        | .error stop => .error stop
        | .ok m => readShort level m rest

/-- Whether a level has all these short options. -/
def hasAllShort (level : Level) (names : List Char) : Bool :=
  names.all fun c => (level.short? c).isSome

/-- Read a word in the next fixed place. -/
def readWord (level : Level) (m : Matches) (word : String) : Except Stop Matches := do
  match level.words[m.placed]? with
  | some spec => return { ← m.settle with pending := some (spec, [word]), placed := m.placed + 1 }
  | none => .error .misuse

/-- Read words into the rest. -/
def readRest (m : Matches) (spec : OptionSpec) (words : List String) : Except Stop Matches := do
  return { ← m.settle with pending := some (spec, words) }

/-- What a level has read, and the subcommand it ends with. -/
structure Result where
  found : Matches
  subcommand : Option (String × List String) := none

/-- Read an argument that is neither an option nor a subcommand, with those behind it.  Beyond
a pair of dashes no argument is an option. -/
def readPlain (level : Level) (m : Matches) : List String → Except Stop Matches
  | [] => .ok m
  | word :: others =>
    match level.rest with
    | some spec => readRest m spec (word :: others)
    | none => do readPlain level (← level.readWord m word) others

/-- What an argument looks like. -/
inductive Shape where
  /-- A pair of dashes, behind which there are no options. -/
  | escape
  /-- Options of the level. -/
  | option (next : Except Stop Matches)
  /-- It begins with a dash and is no option of the level. -/
  | unknown
  | word

/-- The shape of an argument. -/
def shapeOf (level : Level) (m : Matches) : List Char → Shape
  | ['-', '-'] => .escape
  | '-' :: '-' :: text =>
    match level.readLong m text with
    | some next => .option next
    | none => .unknown
  | '-' :: c :: text =>
    -- Where words of any look may follow, unknown short options begin them.
    if level.rest.isSome && !level.hasAllShort (c :: text) then .unknown
    else .option (level.readShort m (c :: text))
  | _ => .word

/-- What becomes of an argument that begins with a dash and is no option: it is the value that an
option waits for, or the rest begins with it. -/
inductive Dashed where
  | value (m : Matches)
  | rest (spec : OptionSpec)
  | refused

/-- What becomes of an argument that begins with a dash and is no option. -/
def dashed (level : Level) (m : Matches) (word : String) : Dashed :=
  match level.rest with
  | none => .refused
  | some spec => if m.isWaiting then .value (m.give word) else .rest spec

/-- Read the arguments of a level. -/
def read (level : Level) (m : Matches) : List String → Except Stop Result
  | [] => .ok ⟨m, none⟩
  | word :: others =>
    -- The value of an option may look like a subcommand.
    if !m.isWaiting && level.subcommands.contains word then .ok ⟨m, some (word, others)⟩
    else
      match level.shapeOf m word.toList with
      | .escape => do return ⟨← level.readPlain m others, none⟩
      | .option next => do read level (← next) others
      | .unknown =>
        match level.dashed m word with
        | .value m => read level m others
        | .rest spec => do return ⟨← readRest m spec (word :: others), none⟩
        | .refused => .error .misuse
      | .word =>
        if m.isWaiting then read level (m.give word) others
        else
          match level.rest with
          | some spec => do return ⟨← readRest m spec (word :: others), none⟩
          | none => do read level (← level.readWord m word) others

end Level

end TransferGateway.Cli
