import TransferGateway.Database.Endpoint
import TransferGateway.Host.FileTree

/-!
# Connections to databases

What becomes of an attempt to connect to a database, on a machine where none listens and where
no names of other machines are known.  A machine that can be named refuses the connection; then
it is tried again until the time is up.
-/

namespace TransferGateway.Database

/-- What keeps a machine from trying to connect. -/
inductive Obstacle where
  | zeroInPath
  | pathTooLong
  | system (error : SystemError)
  /-- No machine can have such a name. -/
  | noName
  /-- Nobody is there who knows the names of machines. -/
  | unresolved
deriving DecidableEq, Repr, Inhabited

namespace Obstacle

/-- The message that a name could not be looked up. -/
def lookupFailure (cause : String) : String :=
  "failed to lookup address information: " ++ cause

/-- The text of an obstacle. -/
def text : Obstacle → String
  | .zeroInPath => "paths must not contain interior null bytes"
  | .pathTooLong => "path must be shorter than SUN_LEN"
  | .system error => error.text
  | .noName => lookupFailure "Name or service not known"
  | .unresolved => lookupFailure "Temporary failure in name resolution"

end Obstacle

/-- Why no connection to a database can be had. -/
inductive ConnectionFault where
  /-- Its address is no good. -/
  | endpoint (cause : EndpointFault)
  | obstacle (cause : Obstacle)
  /-- It does not answer in time. -/
  | timedOut
deriving DecidableEq, Repr, Inhabited

/-- The messages of a connection fault with its causes. -/
def ConnectionFault.messages : ConnectionFault → List String
  | .endpoint cause => cause.messages
  | .obstacle cause => ["error communicating with database: " ++ cause.text, cause.text]
  | .timedOut => ["pool timed out while waiting for an open connection"]

/-- The size that the path of a socket stays below, in bytes. -/
def socketPathLimit : Nat := 108

/-- What keeps a machine from connecting to a socket. -/
def socketObstacle? (files : FileTree) (path : String) : Option Obstacle :=
  if path.toList.any fun c => c.toNat == 0 then some .zeroInPath
  else if socketPathLimit ≤ path.utf8ByteSize then some .pathTooLong
  else
    match files.lookup path with
    | .error error => some (.system error)
    | .ok _ => none

/-- Whether a character may stand in the name of a machine. -/
def isHostChar (c : Char) : Bool := c.isAlphanum || c == '-' || c == '_' || c == '.'

/-- Whether a text may be the name of a machine; a dot may end it. -/
def isHostName (s : List Char) : Bool :=
  let parts := Network.Address.nameParts s
  s.all isHostChar && s.head? != some '-' && !parts.isEmpty &&
    parts.all fun part => !part.isEmpty && part.length ≤ 63

/-- The name that every machine has for itself. -/
def ownName : String := "localhost"

/-- What keeps a machine from connecting to another. -/
def hostObstacle? (host : List Char) : Option Obstacle :=
  if host.any fun c => c.toNat == 0 then some (.system .zeroByteInPath)
  else if Network.isNumeric host || Network.isLoose (Text.splitAtChar '.' host) then none
  else if (String.ofList host).toLower = ownName then none
  else if isHostName host then some .unresolved
  else some .noName

/-- Whether a character is a bracket around the address of a machine. -/
def isBracket (c : Char) : Bool := c == '[' || c == ']'

/-- The host without brackets around it. -/
def bareHost (s : List Char) : List Char :=
  ((s.dropWhile isBracket).reverse.dropWhile isBracket).reverse

namespace Endpoint

/-- What keeps a machine with the given files from connecting to an endpoint. -/
def obstacle? (files : FileTree) (e : Endpoint) : Option Obstacle :=
  match e.socket? with
  | some path => socketObstacle? files path
  | none => hostObstacle? (bareHost e.host.toList)

end Endpoint

/-- Why no connection to the database at an address can be had, when at most `connections` may be
open. -/
def connectionFault (files : FileTree) (valueOf? : String → Option String) (address : String)
    (connections : Nat) : ConnectionFault :=
  match Endpoint.read valueOf? address with
  | .error cause => .endpoint cause
  | .ok e =>
    if connections = 0 then .timedOut
    else
      match e.obstacle? files with
      | some cause => .obstacle cause
      | none => .timedOut

end TransferGateway.Database
