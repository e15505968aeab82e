import TransferGateway.Duration.Basic
import TransferGateway.Host.FileTree
import TransferGateway.Number.FloatNumeral

/-!
# Utilities of the system

The small programs that commands are made of: `true`, `false`, `test`, `cat` and `sleep`.  What
counts is how they end; what they print goes nowhere.
-/

namespace TransferGateway

/-- How a program ends: with an exit status, by a signal, or never; and after which time. -/
inductive ProgramEnding where
  | status (code : Nat)
  | signalled
  | never
deriving DecidableEq, Repr, Inhabited

/-- The run of a program. -/
structure ProgramRun where
  ending : ProgramEnding
  elapsed : Duration := .zero
deriving DecidableEq, Repr, Inhabited

namespace ProgramRun

/-- A program that ends at once with a status. -/
def exits (code : Nat) : ProgramRun := { ending := .status code }

/-- The status that stands for a truth value. -/
def answers (holds : Bool) : ProgramRun := exits (if holds then 0 else 1)

end ProgramRun

namespace Utilities

/-! ## Conditions -/

/-- Whether something holds of the node at a path; of nothing nothing holds. -/
def fileHolds (files : FileTree) (path : String) (holds : FileNode → Bool) : Bool :=
  match files.lookup path with
  | .ok node => holds node
  | .error _ => false

/-- A condition on one argument. -/
def unary? (files : FileTree) (operator argument : String) : Option Bool :=
  match operator with
  | "-n" => some (argument != "")
  | "-z" => some (argument == "")
  | "-e" | "-r" | "-w" | "-a" | "-O" | "-G" => some (fileHolds files argument fun _ => true)
  | "-f" =>
    some (fileHolds files argument fun
      | .file _ | .program _ => true
      | _ => false)
  | "-d" => some (fileHolds files argument FileNode.isDirectory)
  | "-s" =>
    some (fileHolds files argument fun
      | .file content => content != ""
      | .device => false
      | _ => true)
  | "-x" =>
    some (fileHolds files argument fun
      | .program _ | .directory _ => true
      | _ => false)
  | "-c" =>
    some (fileHolds files argument fun
      | .device => true
      | _ => false)
  | "-b" | "-h" | "-L" | "-p" | "-S" | "-g" | "-u" | "-k" | "-t" => some false
  | _ => none

/-- A condition on two arguments. -/
def binary? (left operator right : String) : Option Bool :=
  let compare := fun (holds : Int → Int → Bool) => do
    return holds (← Number.signed? 10 left.toList) (← Number.signed? 10 right.toList)
  match operator with
  | "=" | "==" => some (left == right)
  | "!=" => some (left != right)
  | "-eq" => compare (· == ·)
  | "-ne" => compare (· != ·)
  | "-lt" => compare fun a b => decide (a < b)
  | "-le" => compare fun a b => decide (a ≤ b)
  | "-gt" => compare fun a b => decide (b < a)
  | "-ge" => compare fun a b => decide (b ≤ a)
  | _ => none

/-- The value of a condition; nothing for one that is malformed. -/
def condition? (files : FileTree) : List String → Option Bool
  | [] => some false
  | [a] => some (a != "")
  | ["!", a] => some (a == "")
  | [operator, a] => unary? files operator a
  | [a, b, c] =>
    match binary? a b c with
    | some holds => some holds
    | none =>
      if a = "!" then (unary? files b c).map (!·)
      else if b = "-a" then some (a != "" && c != "")
      else if b = "-o" then some (a != "" || c != "")
      else none
  | ["!", a, b, c] => (binary? a b c).map (!·)
  | _ => none

/-- Check a condition; one that is malformed has a status of its own. -/
def test (files : FileTree) (arguments : List String) : ProgramRun :=
  match condition? files arguments with
  | some holds => .answers holds
  | none => .exits 2

/-! ## Files -/

/-- Whether an argument asks a program to tell about itself. -/
def asksAbout (argument : String) : Bool := argument == "--help" || argument == "--version"

/-- Whether an argument is a cluster of options from the given letters. -/
def isCluster (letters : String) (argument : String) : Bool :=
  match argument.toList with
  | '-' :: c :: rest => (c :: rest).all letters.toList.contains
  | _ => false

/-- Whether a path can be printed; a lone dash stands for the empty input. -/
def canPrint (files : FileTree) (path : String) : Bool :=
  path == "-" || fileHolds files path fun node => !node.isDirectory

/-- Print files, after options. -/
def cat (files : FileTree) : List String → ProgramRun
  | [] => .exits 0
  | argument :: rest =>
    if argument = "--" then .answers (rest.all (canPrint files))
    else if asksAbout argument then .exits 0
    else if argument = "-" ∨ argument.toList.head? ≠ some '-' then
      let run := cat files rest
      if canPrint files argument then run else .exits 1
    else if isCluster "AbeEnstTuv" argument then cat files rest
    else .exits 1

/-! ## Time -/

/-- The seconds in a unit that a length of sleep may end in. -/
def sleepUnit? : Char → Option Nat
  | 's' => some 1
  | 'm' => some 60
  | 'h' => some 3600
  | 'd' => some 86400
  | _ => none

/-- A length of sleep: nothing if it is malformed, and no duration if it is without end. -/
def sleepLength? (text : String) : Option (Option Duration) :=
  let chars := text.toList
  let (digits, unit) :=
    match chars.getLast?.bind sleepUnit? with
    | some unit => (chars.dropLast, unit)
    | none => (chars, 1)
  match Number.float? digits with
  | some (.finite false q) =>
    some (some ⟨(q * ((unit * Duration.perSecond : Nat) : Rat)).ceil.toNat⟩)
  | some (.infinity false) => some none
  | _ => none

/-- Sleep through lengths one after the other. -/
def sleepThrough (elapsed : Duration) : List String → ProgramRun
  | [] => { ending := .status 0, elapsed }
  | text :: rest =>
    match sleepLength? text with
    | none => .exits 1
    | some none => { ending := .never, elapsed }
    | some (some length) => sleepThrough (elapsed.plus length) rest

/-- Sleep for the sum of some lengths. -/
def sleep (arguments : List String) : ProgramRun :=
  if arguments.any asksAbout then .exits 0
  else
    match if arguments.head? = some "--" then arguments.tail else arguments with
    | [] => .exits 1
    | lengths =>
      if lengths.all fun text => (sleepLength? text).isSome then sleepThrough .zero lengths
      else .exits 1

/-- Run a program by its name, if it is one of these. -/
def run? (files : FileTree) (name : String) (arguments : List String) : Option ProgramRun :=
  match name with
  | "true" => some (.exits 0)
  | "false" => some (.exits 1)
  | "test" => some (test files arguments)
  | "cat" => some (cat files arguments)
  | "sleep" => some (sleep arguments)
  | _ => none

end Utilities

end TransferGateway
