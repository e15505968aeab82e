/-!
# Transfer rules

A queued transfer follows a rule, which has a name and a mode.  A mode says which way the file
goes, whether its checksum is verified and whether it is streamed through.
-/

namespace TransferGateway

/-- What a store reports when a call fails. -/
inductive StoreError where
  | notFound (what : String)
  | database (text : String)
  | serialization (text : String)
deriving DecidableEq, Repr, Inhabited

/-- The text of a store error. -/
def StoreError.message : StoreError → String
  | .notFound what => "Entity not found: " ++ what
  | .database text => "Database error: " ++ text
  | .serialization text => "Serialization error: " ++ text

/-- How a file is transferred. -/
structure TransferMode where
  receives : Bool
  checksum : Bool
  through : Bool
deriving DecidableEq, Repr, Inhabited

namespace TransferMode

/-- The name of a mode: its way, then its extras. -/
def name (m : TransferMode) : String :=
  (if m.receives then "receive" else "send") ++ (if m.checksum then "_md5" else "") ++
    (if m.through then "_through" else "")

/-- The modes: direct ones first, among these the ones without checksum first. -/
def all : List TransferMode :=
  [false, true].flatMap fun through =>
    [false, true].flatMap fun checksum =>
      [false, true].map fun receives => ⟨receives, checksum, through⟩

/-- The mode with the given name. -/
def ofName? (name : String) : Option TransferMode := all.find? fun m => m.name == name

/-- Read the name of a mode. -/
def parse (name : String) : Except StoreError TransferMode :=
  match ofName? name with
  | some mode => .ok mode
  | none => .error (.serialization ("Unknown transfer mode: " ++ name))

/-- The same mode with its checksum verified. -/
def withChecksum (m : TransferMode) : TransferMode := { m with checksum := true }

theorem withChecksum_eq_self_iff (m : TransferMode) :
    m.withChecksum = m ↔ m.checksum = true := by
  cases m
  simp [withChecksum, eq_comm]

end TransferMode

/-- A named rule. -/
structure TransferRule where
  name : String
  mode : TransferMode
deriving DecidableEq, Repr, Inhabited

/-- The rules a gateway knows, in the order they were added. -/
structure RuleBook where
  rules : List TransferRule := []
deriving DecidableEq, Repr, Inhabited

namespace RuleBook

/-- Add a rule; it replaces an earlier one of the same name. -/
def insert (book : RuleBook) (rule : TransferRule) : RuleBook := ⟨book.rules ++ [rule]⟩

/-- The last rule with the given name. -/
def find? (book : RuleBook) (name : String) : Option TransferRule :=
  book.rules.reverse.find? fun rule => rule.name == name

theorem find?_insert (book : RuleBook) (rule : TransferRule) (name : String) :
    (book.insert rule).find? name = if rule.name = name then some rule else book.find? name := by
  by_cases h : rule.name = name <;> simp [insert, find?, h]

end RuleBook

end TransferGateway
