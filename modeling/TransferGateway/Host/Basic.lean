import TransferGateway.Host.FileTree

/-!
# The host of a gateway

The machine as an operator's command finds it: its name, its files and its environment.
-/

namespace TransferGateway

/-- A machine with its name, its files and the variables of its environment. -/
structure Host where
  name : String
  files : FileTree := {}
  environment : List (String × String) := []

namespace Host

instance : Inhabited Host := ⟨{ name := "" }⟩

/-- The value of a variable. -/
def valueOf? (host : Host) (name : String) : Option String :=
  (host.environment.find? fun entry => entry.1 == name).map Prod.snd

/-- A path below a directory. -/
def below (directory path : String) : String :=
  if directory.toList.getLast? = some '/' then directory ++ path else directory ++ "/" ++ path

/-- The home directory of the user, if it is told. -/
def home? (host : Host) : Option String :=
  (host.valueOf? "HOME").filter fun home => !home.isEmpty

/-- The variable that lists the directories of programs, with colons between them. -/
def searchVariable : String := "PATH"

/-- The directories that programs are looked for in. -/
def programDirectories (host : Host) : List String :=
  match host.valueOf? searchVariable with
  | some text => (Text.splitAtChar ':' text.toList).map String.ofList
  | none => ["/bin", "/usr/bin"]

/-- Whether a program may still be found in another directory. -/
def isPassedOver (e : SystemError) : Bool := [.number 2, .number 13, .number 20].contains e

/-- Look for a program in directories.  If none holds it, the error is that of the last one,
unless a file was found before that must not be run. -/
def searchFrom (files : FileTree) (name : String) (failure : SystemError) :
    List String → Except SystemError String
  | [] => .error failure
  | directory :: rest =>
    match files.programAt (if directory = "" then name else directory ++ "/" ++ name) with
    | .ok program => .ok program
    | .error e =>
      if isPassedOver e then
        searchFrom files name (if failure = .number 13 then failure else e) rest
      else .error e

/-- The program that is started under a name, which may be a path. -/
def programNamed (host : Host) (name : String) : Except SystemError String :=
  if name = "" then .error (.number 2)
  else if name.toList.contains '/' then host.files.programAt name
  else searchFrom host.files name (.number 2) host.programDirectories

end Host

end TransferGateway
