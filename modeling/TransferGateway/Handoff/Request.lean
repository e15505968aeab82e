import TransferGateway.Text.Blank
import TransferGateway.Number.Integer
import TransferGateway.Handoff.Rule

/-!
# Hand-off requests

A hand-off line asks for a transfer to be queued: where to, under which rule, which file, and
options.  Its words are grouped into items; a value flag takes the next word whatever it looks
like, and `-info` takes all that follow it.  The request is what the items say together.
-/

namespace TransferGateway

/-- Why a transfer was not handed off. -/
inductive HandoffError where
  | emptyCommand
  | missingFlag (flag : String)
  | missingValue (flag : String)
  | invalidBlockSize (text : String)
  | ruleNotFound (name : String)
  | ruleLookup (cause : StoreError)
  | persistence (cause : StoreError)
deriving DecidableEq, Repr, Inhabited

namespace HandoffError

/-- The text of an error. -/
def message : HandoffError → String
  | .emptyCommand => "Empty transfer preparation command"
  | .missingFlag flag => "Mandatory flag " ++ flag ++ " is missing"
  | .missingValue flag => "Flag " ++ flag ++ " requires a value"
  | .invalidBlockSize text => "Invalid block size: " ++ text
  | .ruleNotFound name => "Rule not found: " ++ name
  | .ruleLookup cause => "Rule lookup failed: " ++ cause.message
  | .persistence cause => "Queued transfer persistence failed: " ++ cause.message

/-- Whether the line itself was at fault; then no store has been asked yet. -/
def isParseError : HandoffError → Bool
  | .emptyCommand | .missingFlag _ | .missingValue _ | .invalidBlockSize _ => true
  | _ => false

end HandoffError

namespace Handoff

/-- A flag that takes the next word as its value. -/
inductive ValueFlag where
  | host
  | rule
  | file
  | block
deriving DecidableEq, Repr, Inhabited

/-- A flag without value. -/
inductive Switch where
  | checksum
  | quiet
deriving DecidableEq, Repr, Inhabited

/-- The flags of a hand-off line. -/
inductive Flag where
  | value (flag : ValueFlag)
  | switch (flag : Switch)
  | info
deriving DecidableEq, Repr, Inhabited

/-- The word of a value flag. -/
def ValueFlag.word : ValueFlag → String
  | .host => "-to"
  | .rule => "-rule"
  | .file => "-file"
  | .block => "-block"

/-- The word of a switch. -/
def Switch.word : Switch → String
  | .checksum => "-md5"
  | .quiet => "-nolog"

/-- The word of a flag. -/
def Flag.word : Flag → String
  | .value flag => flag.word
  | .switch flag => flag.word
  | .info => "-info"

/-- All flags. -/
def Flag.all : List Flag :=
  [.value .host, .value .rule, .value .file, .value .block, .switch .checksum, .switch .quiet,
    .info]

/-- The flag with the given word. -/
def Flag.ofWord? (word : String) : Option Flag := Flag.all.find? fun flag => flag.word == word

/-- A part of a hand-off line before its information text. -/
inductive Item where
  | value (flag : ValueFlag) (word : String)
  | switch (flag : Switch)
  | unknown (word : String)
deriving DecidableEq, Repr, Inhabited

/-- How a hand-off line ends. -/
inductive Ending where
  /-- After a complete item. -/
  | plain
  /-- With the information text, one word or more. -/
  | info (first : String) (rest : List String)
  /-- With a flag that lacks its value. -/
  | unfinished (flag : Flag)
deriving DecidableEq, Repr, Inhabited

/-- The words of a hand-off line, grouped. -/
structure Line where
  items : List Item
  ending : Ending
deriving DecidableEq, Repr, Inhabited

namespace Line

/-- Put an item in front. -/
def cons (item : Item) (line : Line) : Line := { line with items := item :: line.items }

/-- Group words into items. -/
def ofWords : List String → Line
  | [] => ⟨[], .plain⟩
  | word :: rest =>
    match Flag.ofWord? word with
    | none => cons (.unknown word) (ofWords rest)
    | some (.switch flag) => cons (.switch flag) (ofWords rest)
    | some (.value flag) =>
      match rest with
      | [] => ⟨[], .unfinished (.value flag)⟩
      | value :: more => cons (.value flag value) (ofWords more)
    | some .info =>
      match rest with
      | [] => ⟨[], .unfinished .info⟩
      | first :: more => ⟨[], .info first more⟩

end Line

/-- The words of an item. -/
def Item.words : Item → List String
  | .value flag word => [flag.word, word]
  | .switch flag => [flag.word]
  | .unknown word => [word]

/-- The words of an ending. -/
def Ending.words : Ending → List String
  | .plain => []
  | .info first rest => Flag.info.word :: first :: rest
  | .unfinished flag => [flag.word]

/-- The words of a grouped line, in order. -/
def Line.words (line : Line) : List String := line.items.flatMap Item.words ++ line.ending.words

theorem Flag.word_of_ofWord? {word : String} {flag : Flag} (h : Flag.ofWord? word = some flag) :
    flag.word = word := by
  have := List.find?_some h
  simpa using this

/-- Grouping loses no word. -/
theorem Line.words_ofWords (ws : List String) : (Line.ofWords ws).words = ws := by
  fun_induction Line.ofWords ws with
  | case1 => rfl
  | case2 word rest h ih => simpa [Line.words, Line.cons, Item.words] using ih
  | case3 word rest flag h ih =>
    have hw : flag.word = word := Flag.word_of_ofWord? h
    simpa [Line.words, Line.cons, Item.words, hw] using ih
  | case4 word flag h =>
    have hw : flag.word = word := Flag.word_of_ofWord? h
    simp [Line.words, Ending.words, Flag.word, hw]
  | case5 word flag h value more ih =>
    have hw : flag.word = word := Flag.word_of_ofWord? h
    simpa [Line.words, Line.cons, Item.words, hw] using ih
  | case6 word h =>
    have hw : Flag.info.word = word := Flag.word_of_ofWord? h
    simp [Line.words, Ending.words, hw]
  | case7 word h first more =>
    have hw : Flag.info.word = word := Flag.word_of_ofWord? h
    simp [Line.words, Ending.words, hw]

/-- The smallest block size a line can ask for; smaller ones are passed over. -/
def minBlockSize : Nat := 100

/-- The largest block size a line can ask for. -/
def maxBlockSize : Nat := 2147483647

/-- The information text of a line that gives none. -/
def defaultInfo : String := "noinfo"

/-- The block size that a word asks for: `none` when it is too small to count. -/
def readBlockSize (word : String) : Except HandoffError (Option Nat) :=
  match Number.signedWithin? 64 10 word.toList with
  | none => .error (.invalidBlockSize word)
  | some n =>
    if n < (minBlockSize : Int) then .ok none
    else if (maxBlockSize : Int) < n then .error (.invalidBlockSize word)
    else .ok (some n.toNat)

/-- What the items of a line have said so far. -/
structure Draft where
  host : Option String := none
  rule : Option String := none
  file : Option String := none
  blockSize : Option Nat := none
  checksum : Bool := false
  quiet : Bool := false
deriving DecidableEq, Repr, Inhabited

namespace Draft

/-- Take in one more item; a later value replaces an earlier one. -/
def add (draft : Draft) : Item → Except HandoffError Draft
  | .value .host word => .ok { draft with host := some word }
  | .value .rule word => .ok { draft with rule := some word }
  | .value .file word => .ok { draft with file := some word }
  | .value .block word =>
    match readBlockSize word with
    | .error e => .error e
    | .ok none => .ok draft
    | .ok (some n) => .ok { draft with blockSize := some n }
  | .switch .checksum => .ok { draft with checksum := true }
  | .switch .quiet => .ok { draft with quiet := true }
  | .unknown _ => .ok draft

/-- Take in items from left to right, up to the first fault. -/
def addAll (draft : Draft) : List Item → Except HandoffError Draft
  | [] => .ok draft
  | item :: rest =>
    match draft.add item with
    | .error e => .error e
    | .ok next => next.addAll rest

end Draft

/-- A complete request. -/
structure Request where
  host : String
  rule : String
  file : String
  blockSize : Nat
  checksum : Bool
  quiet : Bool
  info : String
deriving DecidableEq, Repr, Inhabited

namespace Request

/-- The request of a draft, once the mandatory flags are there. -/
def ofDraft (defaultBlockSize : Nat) (draft : Draft) (info : String) :
    Except HandoffError Request :=
  match draft.host, draft.rule, draft.file with
  | none, _, _ => .error (.missingFlag ValueFlag.host.word)
  | some _, none, _ => .error (.missingFlag ValueFlag.rule.word)
  | some _, some _, none => .error (.missingFlag ValueFlag.file.word)
  | some host, some rule, some file =>
    .ok {
      host, rule, file, info
      blockSize := draft.blockSize.getD defaultBlockSize
      checksum := draft.checksum
      quiet := draft.quiet }

/-- The request of a grouped line. -/
def ofLine (defaultBlockSize : Nat) (line : Line) : Except HandoffError Request :=
  match Draft.addAll {} line.items with
  | .error e => .error e
  | .ok draft =>
    match line.ending with
    | .unfinished flag => .error (.missingValue flag.word)
    | .plain => ofDraft defaultBlockSize draft defaultInfo
    | .info first rest => ofDraft defaultBlockSize draft (joinWords (first :: rest))

/-- The request of the words of a line. -/
def ofWords (defaultBlockSize : Nat) : List String → Except HandoffError Request
  | [] => .error .emptyCommand
  | word :: rest => ofLine defaultBlockSize (Line.ofWords (word :: rest))

/-- Read a hand-off line. -/
def parse (line : String) (defaultBlockSize : Nat) : Except HandoffError Request :=
  ofWords defaultBlockSize (wordsOf line)

end Request

end Handoff

end TransferGateway
