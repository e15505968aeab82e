import TransferGateway.Number.Integer

/-!
# Operating system errors

What can go wrong when a process is started, waited for or killed, or a file is opened.
-/

namespace TransferGateway

/-- The kind of an error that carries no system error number. -/
inductive ErrorKind where
  | wouldBlock
  | outOfMemory
  | notFound
  | permissionDenied
  | interrupted
  | invalidInput
  | timedOut
  | brokenPipe
  | alreadyExists
  | unsupported
  | other
deriving DecidableEq, Repr, Inhabited

namespace ErrorKind

/-- The kinds with their names. -/
def named : List (String × ErrorKind) := [
  ("WouldBlock", .wouldBlock), ("OutOfMemory", .outOfMemory), ("NotFound", .notFound),
  ("PermissionDenied", .permissionDenied), ("Interrupted", .interrupted),
  ("InvalidInput", .invalidInput), ("TimedOut", .timedOut), ("BrokenPipe", .brokenPipe),
  ("AlreadyExists", .alreadyExists), ("Unsupported", .unsupported), ("Other", .other)]

/-- The kind with the given name. -/
def ofName? (name : String) : Option ErrorKind :=
  (named.find? fun entry => entry.1 == name).map Prod.snd

/-- The text of an error that is only a kind. -/
def text : ErrorKind → String
  | .wouldBlock => "operation would block"
  | .outOfMemory => "out of memory"
  | .notFound => "entity not found"
  | .permissionDenied => "permission denied"
  | .interrupted => "operation interrupted"
  | .invalidInput => "invalid input parameter"
  | .timedOut => "timed out"
  | .brokenPipe => "broken pipe"
  | .alreadyExists => "entity already exists"
  | .unsupported => "unsupported"
  | .other => "other error"

end ErrorKind

/-- An error of the operating system. -/
inductive SystemError where
  /-- Only a kind is known. -/
  | kind (kind : ErrorKind)
  /-- The system reported an error number. -/
  | number (number : Nat)
  /-- A path or argument that the system would not take holds a zero byte. -/
  | zeroByteInArgument
  /-- A file name holds a zero byte. -/
  | zeroByteInPath
  /-- What was opened is not a regular file. -/
  | notRegular
  /-- What was read is no text. -/
  | notText
deriving DecidableEq, Repr, Inhabited

namespace SystemError

/-- Texts of system error numbers. -/
def numberTexts : List (Nat × String) := [
  (1, "Operation not permitted"), (2, "No such file or directory"), (3, "No such process"),
  (4, "Interrupted system call"), (5, "Input/output error"), (6, "No such device or address"),
  (7, "Argument list too long"), (8, "Exec format error"), (9, "Bad file descriptor"),
  (10, "No child processes"), (11, "Resource temporarily unavailable"),
  (12, "Cannot allocate memory"), (13, "Permission denied"), (14, "Bad address"),
  (16, "Device or resource busy"), (17, "File exists"), (19, "No such device"),
  (20, "Not a directory"), (21, "Is a directory"), (22, "Invalid argument"),
  (23, "Too many open files in system"), (24, "Too many open files"), (26, "Text file busy"),
  (27, "File too large"), (28, "No space left on device"), (30, "Read-only file system"),
  (32, "Broken pipe"), (36, "File name too long"), (38, "Function not implemented"),
  (40, "Too many levels of symbolic links"), (110, "Connection timed out"),
  (111, "Connection refused")]

/-- The text of a system error number. -/
def numberText (n : Nat) : String :=
  match numberTexts.find? fun entry => entry.1 == n with
  | some entry => entry.2
  | none => "Unknown error " ++ String.ofList (Number.decimalDigits n)

/-- The text of an error. -/
def text : SystemError → String
  | SystemError.kind k => k.text
  | .number n =>
    numberText n ++ " (os error " ++ String.ofList (Number.decimalDigits n) ++ ")"
  | .zeroByteInArgument => "nul byte found in provided data"
  | .zeroByteInPath => "file name contained an unexpected NUL byte"
  | .notRegular => "not a regular file"
  | .notText => "stream did not contain valid UTF-8"

/-- Whether starting a process may succeed when tried again: the system lacked a resource for
the moment. -/
def isTransient : SystemError → Bool
  | SystemError.kind ErrorKind.wouldBlock => true
  | SystemError.kind ErrorKind.outOfMemory => true
  | .number n => n == 11 || n == 12
  | _ => false

end SystemError

end TransferGateway
