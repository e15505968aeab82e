import TransferGateway.Network.Address
import TransferGateway.Text.Escaped

/-!
# Endpoints of databases

Where a database listens: at a port of a machine, or at a socket in a directory.  The address of
the database says so, in its parts or in the settings of its query; what it leaves open is taken
from the environment.
-/

namespace TransferGateway.Database

/-- Where a database listens. -/
structure Endpoint where
  host : String
  /-- The directory of its socket, which goes before the host. -/
  directory : Option String := none
  port : Nat := 5432
deriving DecidableEq, Repr, Inhabited

/-- Why an address leads to no endpoint. -/
inductive EndpointFault where
  | address (cause : Network.AddressFault)
  /-- A part of the address is no text. -/
  | encoding (cause : Text.EncodingFault)
  /-- A setting should be a number. -/
  | numeral (cause : Number.NumeralFault)
  /-- The address of a machine should be numeric. -/
  | notNumeric
  /-- There is no such mode of encryption. -/
  | encryption (mode : String)
deriving DecidableEq, Repr, Inhabited

namespace EndpointFault

/-- The message of a fault of the configuration. -/
def ofConfiguration (cause : String) : String := "error with configuration: " ++ cause

/-- The messages of the causes of a fault, the innermost last. -/
def causes : EndpointFault → List String
  | .address cause => [cause.message]
  | .encoding cause => [cause.message]
  | .numeral cause => [cause.message]
  | .notNumeric => ["invalid IP address syntax"]
  | .encryption mode =>
    let cause := "unknown value " ++ quoted mode ++ " for \x60ssl_mode\x60"
    [ofConfiguration cause, cause]

/-- The messages of a fault with its causes. -/
def messages (f : EndpointFault) : List String :=
  ofConfiguration (f.causes.head?.getD "") :: f.causes

end EndpointFault

/-- The modes of encryption. -/
def encryptionModes : List String :=
  ["disable", "allow", "prefer", "require", "verify-ca", "verify-full"]

/-- The variable that sets the port. -/
def portVariable : String := "PGPORT"

/-- The variable that sets the numeric address of the machine. -/
def numericVariable : String := "PGHOSTADDR"

/-- The variable that sets the machine or the directory of the socket. -/
def hostVariable : String := "PGHOST"

namespace Endpoint

/-- The endpoint that the environment gives. -/
def preset (valueOf? : String → Option String) : Endpoint where
  host :=
    ((valueOf? numericVariable).orElse fun () => valueOf? hostVariable).getD "localhost"
  port :=
    ((valueOf? portVariable).bind fun text => Number.unsignedWithin? 16 10 text.toList).getD 5432

/-- Read the text that a part of an address writes. -/
def readText (s : List Char) : Except EndpointFault String :=
  match Text.ofOctets (Text.percentDecode s) with
  | .ok text => .ok text
  | .error cause => .error (.encoding cause)

/-- Read a number below `2 ^ bits`. -/
def readNumber (bits : Nat) (s : List Char) : Except EndpointFault Nat :=
  match Number.decimalWithin bits s with
  | .ok n => .ok n
  | .error cause => .error (.numeral cause)

/-- Take the host of an address, which is a directory if it begins with a slash. -/
def withHost (e : Endpoint) (host : List Char) : Except EndpointFault Endpoint :=
  if (Text.percentDecode host).head?.any fun octet => octet.toNat == '/'.toNat then
    (readText host).map fun directory => { e with directory := some directory }
  else .ok { e with host := String.ofList host }

/-- The text that a piece of a query writes, with spaces as plus signs. -/
def formText (s : List Char) : List Char :=
  (Text.ofOctetsLeniently
    (Text.percentDecode (s.map fun c => if c = '+' then ' ' else c))).toList

/-- The settings in a query. -/
def settings (query : List Char) : List (String × List Char) :=
  ((Text.splitAtChar '&' query).filter fun piece => !piece.isEmpty).map fun piece =>
    let (name, value) := (Text.splitOnce '=' piece).getD (piece, [])
    (String.ofList (formText name), formText value)

/-- Follow a setting; those that are not about the endpoint may have any value, if it is not to
be a number or a mode of encryption. -/
def set (e : Endpoint) (name : String) (value : List Char) : Except EndpointFault Endpoint :=
  if name = "sslmode" ∨ name = "ssl-mode" then
    let mode := String.ofList value
    if encryptionModes.contains mode.toLower then .ok e else .error (.encryption mode)
  else if name = "statement-cache-capacity" then (readNumber 64 value).map fun _ => e
  else if name = "host" then
    if value.head? = some '/' then .ok { e with directory := some (String.ofList value) }
    else .ok { e with host := String.ofList value }
  else if name = "hostaddr" then
    if Network.isNumeric value then .ok { e with host := String.ofList value }
    else .error .notNumeric
  else if name = "port" then (readNumber 16 value).map fun port => { e with port }
  else .ok e

/-- The endpoint of an address, where `e` says what the address leaves open. -/
def ofAddress (e : Endpoint) (a : Network.Address) : Except EndpointFault Endpoint := do
  let e ←
    match a.host with
    | some host => e.withHost host
    | none => .ok e
  let e := { e with port := a.port.getD e.port }
  let _ ← readText a.user
  let _ ← readText a.password
  let _ ← readText (a.path.dropWhile (· == '/'))
  (settings a.query).foldlM (fun e setting => e.set setting.1 setting.2) e

/-- Read the address of a database. -/
def read (valueOf? : String → Option String) (text : String) : Except EndpointFault Endpoint :=
  match Network.Address.parse text with
  | .ok a => (preset valueOf?).ofAddress a
  | .error cause => .error (.address cause)

/-- The path of the socket, if there is to be one. -/
def socket? (e : Endpoint) : Option String :=
  let directory? := e.directory.orElse fun () =>
    if e.host.toList.head? = some '/' then some e.host else none
  directory?.map fun directory => directory ++ "/.s.PGSQL." ++ toString e.port

end Endpoint

end TransferGateway.Database
