import TransferGateway.Number.Integer
import TransferGateway.Text.Alphanumeric
import TransferGateway.Text.Blank
import TransferGateway.Text.Split

/-!
# Log filters

Filters for what is logged: directives between commas, each with a target, spans with fields and
a level, all of which may be left out.
-/

namespace TransferGateway.Cli

/-- Why a filter is no good. -/
inductive FilterError where
  | malformed
  | level
deriving DecidableEq, Repr

namespace FilterError

/-- The text of a filter error. -/
def message : FilterError → String
  | .malformed => "invalid filter directive"
  | .level =>
    "error parsing level filter: expected one of \"off\", \"error\", \"warn\", \"info\", " ++
      "\"debug\", \"trace\", or a number 0-5"

/-- The messages of a filter error with its causes; a level is a cause of its own. -/
def messages : FilterError → List String
  | .malformed => [FilterError.malformed.message]
  | .level => [FilterError.level.message, FilterError.level.message]

end FilterError

namespace LogFilter

/-- The names of the levels. -/
def levelNames : List String := ["off", "error", "warn", "info", "debug", "trace"]

/-- Whether a text names a level. -/
def isLevel (s : List Char) : Bool :=
  match Number.unsignedWithin? 64 10 s with
  | some n => decide (n ≤ 5)
  | none => s.isEmpty || levelNames.contains (String.ofList (s.map Char.toLower))

/-- Where reading a directive stands. -/
inductive State where
  | start
  | levelOrTarget
  | span
  | field (length : Nat)
  | fieldsOver
  | target
  /-- A level begins at a distance from the start of the directive. -/
  | level (origin : Nat)
deriving DecidableEq, Repr

/-- Whether a directive may begin with a character. -/
def mayBegin (c : Char) : Bool := c == '-' || c == ':' || c == '_' || Text.isAlphanumeric c

/-- The state after the character at an index. -/
def State.next (s : State) (index : Nat) (c : Char) : Except FilterError State :=
  match s with
  | .start =>
    if c = '[' then .ok .span else if mayBegin c then .ok .levelOrTarget else .error .malformed
  | .levelOrTarget =>
    if c = '=' then .ok (.level (index + 1)) else if c = '[' then .ok .span else .ok .levelOrTarget
  | .span => if c = ']' then .ok .target else if c = '\x7b' then .ok (.field 0) else .ok .span
  | .field length =>
    if c = '\x7d' then if length = 0 then .error .malformed else .ok .fieldsOver
    else .ok (.field (length + 1))
  | .fieldsOver => if c = ']' then .ok .target else .error .malformed
  | .target => if c = '=' then .ok (.level (index + 1)) else .error .malformed
  | .level origin => .ok (.level origin)

/-- Follow the characters of a directive from an index on. -/
def follow (s : State) (index : Nat) : List Char → Except FilterError State
  | [] => .ok s
  | c :: rest =>
    match s.next index c with
    | .error e => .error e
    | .ok s => follow s (index + 1) rest

/-- Check a directive.  Blanks around it are passed over in reading, but not in telling where its
level begins. -/
def checkDirective (directive : List Char) : Except FilterError Unit :=
  match follow .start 0 (Text.trim directive) with
  | .error e => .error e
  | .ok .levelOrTarget => .ok ()
  | .ok .target => .ok ()
  -- The distance was counted without the blanks in front.
  | .ok (.level origin) => if isLevel (directive.drop origin) then .ok () else .error .level
  | .ok _ => .error .malformed

/-- Check directives from left to right. -/
def checkAll : List (List Char) → Except FilterError Unit
  | [] => .ok ()
  | directive :: rest =>
    match checkDirective directive with
    | .error e => .error e
    | .ok () => checkAll rest

/-- Check a filter; empty directives are passed over. -/
def check (text : String) : Except FilterError Unit :=
  checkAll ((Text.splitAtChar ',' text.toList).filter fun directive => !directive.isEmpty)

end LogFilter

end TransferGateway.Cli
