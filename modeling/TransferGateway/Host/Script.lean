/-!
# Scripts

The texts that a shell runs, as far as hook commands need them: simple commands in lists, with
quotes and parameters.  A text that goes beyond this, or leaves a quote open, is no script.
-/

namespace TransferGateway.Script

/-- A piece of a word. -/
inductive Piece where
  | char (c : Char) (isQuoted : Bool)
  | parameter (name : String) (isQuoted : Bool)
  /-- Quotes, which make a word even if nothing stands between them. -/
  | quotes
deriving DecidableEq, Repr

/-- A word before its parameters are replaced. -/
abbrev Word := List Piece

/-- When a command is run, seen from the status before it. -/
inductive Connective where
  | always
  | onSuccess
  | onFailure
deriving DecidableEq, Repr

/-- A token of a script. -/
inductive Token where
  | word (w : Word)
  | connective (c : Connective)
deriving DecidableEq, Repr

/-- A command of a script. -/
structure Command where
  connective : Connective
  words : List Word
deriving DecidableEq, Repr

/-! ## Tokens -/

/-- Where reading stands. -/
inductive Mode where
  | plain
  | single
  | double
  | comment
deriving DecidableEq, Repr

/-- The tokens read so far, the last one first, and the pieces of a word that is not over. -/
structure Progress where
  tokens : List Token := []
  word : Option (List Piece) := none

namespace Progress

/-- Add a piece to the word. -/
def add (p : Progress) (piece : Piece) : Progress :=
  { p with word := some (p.word.getD [] ++ [piece]) }

/-- End the word, if there is one. -/
def endWord (p : Progress) : Progress :=
  match p.word with
  | none => p
  | some w => { tokens := .word w :: p.tokens }

/-- End the word, and add a connective. -/
def connect (p : Progress) (c : Connective) : Progress :=
  { tokens := .connective c :: p.endWord.tokens }

end Progress

/-- Whether the name of a parameter may begin so. -/
def beginsName (c : Char) : Bool := c.isAlpha || c == '_'

/-- Whether a character can be in the name of a parameter. -/
def isNameChar (c : Char) : Bool := c.isAlphanum || c == '_'

/-- Whether a single character names a parameter. -/
def isSpecialName (c : Char) : Bool := c.isDigit || "#$?@*!-".toList.contains c

/-- A parameter at the start of a text, behind its dollar sign, and what follows; a dollar sign
that no parameter follows stands for itself. -/
def parameterAt (isQuoted : Bool) (s : List Char) :
    Option (Piece × { rest : List Char // rest.length ≤ s.length }) :=
  match s with
  | '\x7b' :: rest =>
    let name := rest.takeWhile (· != '\x7d')
    if name.length < rest.length then
      some (.parameter (String.ofList name) isQuoted,
        ⟨rest.drop (name.length + 1), by simp; omega⟩)
    else none
  | '(' :: _ => none
  | c :: rest =>
    if isSpecialName c then some (.parameter (String.singleton c) isQuoted, ⟨rest, by simp⟩)
    else if beginsName c then
      some (.parameter (String.ofList (c :: rest.takeWhile isNameChar)) isQuoted,
        ⟨rest.dropWhile isNameChar, by
          have := (List.dropWhile_sublist (l := rest) isNameChar).length_le
          simp
          omega⟩)
    else some (.char '$' isQuoted, ⟨c :: rest, by simp⟩)
  | [] => some (.char '$' isQuoted, ⟨[], by simp⟩)

/-- Read tokens from a place on. -/
def tokensFrom? (mode : Mode) (p : Progress) (s : List Char) : Option (List Token) :=
  match mode, s with
  | .plain, [] => some p.endWord.tokens.reverse
  | .comment, [] => some p.endWord.tokens.reverse
  | .single, [] => none
  | .double, [] => none
  | .comment, c :: rest =>
    if c = '\n' then tokensFrom? .plain (p.connect .always) rest else tokensFrom? .comment p rest
  | .single, c :: rest =>
    if c = '\'' then tokensFrom? .plain p rest
    else tokensFrom? .single (p.add (.char c true)) rest
  | .double, '\\' :: c :: rest =>
    if c = '\n' then tokensFrom? .double p rest
    else if c = '$' ∨ c = '"' ∨ c = '\\' ∨ c.toNat = 0x60 then
      tokensFrom? .double (p.add (.char c true)) rest
    else tokensFrom? .double ((p.add (.char '\\' true)).add (.char c true)) rest
  | .double, c :: rest =>
    if c = '"' then tokensFrom? .plain p rest
    else if c.toNat = 0x60 then none
    else if c = '$' then
      match parameterAt true rest with
      | none => none
      | some (piece, ⟨after, _⟩) => tokensFrom? .double (p.add piece) after
    else tokensFrom? .double (p.add (.char c true)) rest
  | .plain, '\\' :: c :: rest =>
    if c = '\n' then tokensFrom? .plain p rest
    else tokensFrom? .plain (p.add (.char c true)) rest
  | .plain, '&' :: '&' :: rest => tokensFrom? .plain (p.connect .onSuccess) rest
  | .plain, '|' :: '|' :: rest => tokensFrom? .plain (p.connect .onFailure) rest
  | .plain, c :: rest =>
    if c = '\'' then tokensFrom? .single (p.add .quotes) rest
    else if c = '"' then tokensFrom? .double (p.add .quotes) rest
    else if c = '$' then
      match parameterAt false rest with
      | none => none
      | some (piece, ⟨after, _⟩) => tokensFrom? .plain (p.add piece) after
    else if c = ' ' ∨ c = '\t' then tokensFrom? .plain p.endWord rest
    else if c = '\n' ∨ c = ';' then tokensFrom? .plain (p.connect .always) rest
    else if c = '#' ∧ p.word = none then tokensFrom? .comment p rest
    else if "&|()<>".toList.contains c ∨ c.toNat = 0x60 then none
    else tokensFrom? .plain (p.add (.char c false)) rest
termination_by s.length
decreasing_by all_goals simp_wf <;> omega

/-! ## Commands -/

/-- Group tokens into commands; a connective joins the command before it to the one behind. -/
def commandsFrom? (connective : Connective) (words : List Word) :
    List Token → Option (List Command)
  | [] =>
    if words.isEmpty then (if connective = .always then some [] else none)
    else some [⟨connective, words⟩]
  | .word w :: rest => commandsFrom? connective (words ++ [w]) rest
  | .connective next :: rest =>
    if words.isEmpty then
      if connective = .always ∧ next = .always then commandsFrom? .always [] rest else none
    else (commandsFrom? next [] rest).map (⟨connective, words⟩ :: ·)

/-- The commands of a script. -/
def parse? (text : String) : Option (List Command) :=
  (tokensFrom? .plain {} text.toList).bind (commandsFrom? .always [])

/-! ## Parameters -/

/-- The fields of a word so far, the last one first, and one that is not over. -/
structure Fields where
  done : List String := []
  open? : Option (List Char) := none

namespace Fields

/-- Add a character to the field. -/
def add (f : Fields) (c : Char) : Fields := { f with open? := some (f.open?.getD [] ++ [c]) }

/-- End the field, if there is one. -/
def close (f : Fields) : Fields :=
  match f.open? with
  | none => f
  | some cs => { done := String.ofList cs :: f.done }

/-- Add a character of a value, which is split at blanks. -/
def addSplit (f : Fields) (c : Char) : Fields :=
  if c = ' ' ∨ c = '\t' ∨ c = '\n' then f.close else f.add c

/-- Add a piece of a word. -/
def addPiece (value : String → String) (f : Fields) : Piece → Fields
  | .char c _ => f.add c
  | .quotes => { f with open? := some (f.open?.getD []) }
  | .parameter name true => (value name).toList.foldl add f
  | .parameter name false => (value name).toList.foldl addSplit f

end Fields

/-- The fields that a word makes. -/
def fieldsOf (value : String → String) (w : Word) : List String :=
  (w.foldl (Fields.addPiece value) {}).close.done.reverse

end TransferGateway.Script
