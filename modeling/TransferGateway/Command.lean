import TransferGateway.Text.Blank

/-!
# Protocol commands

The commands of a session as the gateway tells them apart: the four that transfer a file, the
seven that are never throttled, and all others.  A command is read from its name with blanks
around it dropped and ASCII letters in either case.
-/

namespace TransferGateway

/-- The side of a transfer a policy applies to. -/
inductive Direction where
  | store
  | retrieve
deriving DecidableEq, Repr, Inhabited

/-- The name of a direction. -/
def Direction.name : Direction → String
  | .store => "store"
  | .retrieve => "retrieve"

/-- A command that transfers a file. -/
inductive Operation where
  | retrieve
  | store
  | append
  | storeUnique
deriving DecidableEq, Repr, Inhabited

namespace Operation

/-- The operations in the order of their definition. -/
def all : List Operation := [.retrieve, .store, .append, .storeUnique]

/-- The command word of an operation. -/
def code : Operation → String
  | .retrieve => "RETR"
  | .store => "STOR"
  | .append => "APPE"
  | .storeUnique => "STOU"

/-- The operation with the given command word. -/
def ofCode? (code : String) : Option Operation := all.find? fun o => o.code == code

/-- Files go out with a retrieval and come in with every other operation. -/
def direction : Operation → Direction
  | .retrieve => .retrieve
  | _ => .store

end Operation

/-- A command that is never throttled, so that an overloaded session can still leave. -/
inductive SpecialCommand where
  | quit
  | abort
  | noop
  | status
  | features
  | system
  | help
deriving DecidableEq, Repr, Inhabited

namespace SpecialCommand

/-- The special commands in the order of their definition. -/
def all : List SpecialCommand := [.quit, .abort, .noop, .status, .features, .system, .help]

/-- The command word of a special command. -/
def code : SpecialCommand → String
  | .quit => "QUIT"
  | .abort => "ABOR"
  | .noop => "NOOP"
  | .status => "STAT"
  | .features => "FEAT"
  | .system => "SYST"
  | .help => "HELP"

/-- The special command with the given command word. -/
def ofCode? (code : String) : Option SpecialCommand := all.find? fun c => c.code == code

end SpecialCommand

/-- A protocol command. -/
inductive Command where
  | transfer (operation : Operation)
  | special (command : SpecialCommand)
  | other (name : String)
deriving DecidableEq, Repr, Inhabited

namespace Command

/-- The canonical name of a text: trimmed, with ASCII letters in upper case. -/
def canonical (text : String) : String :=
  String.ofList ((Text.trim text.toList).map Char.toUpper)

/-- The command with the given canonical name. -/
def ofName (name : String) : Command :=
  match Operation.ofCode? name with
  | some operation => .transfer operation
  | none =>
    match SpecialCommand.ofCode? name with
    | some command => .special command
    | none => .other name

/-- Read a command. -/
def parse (text : String) : Command := ofName (canonical text)

/-- The name of a command. -/
def name : Command → String
  | .transfer operation => operation.code
  | .special command => command.code
  | .other name => name

/-- Whether the command is never throttled. -/
def isSpecial : Command → Bool
  | .special _ => true
  | _ => false

/-- The operation of a command that transfers a file. -/
def operation? : Command → Option Operation
  | .transfer operation => some operation
  | _ => none

/-- The direction of a command that transfers a file. -/
def direction? (c : Command) : Option Direction := c.operation?.map Operation.direction

end Command

end TransferGateway
