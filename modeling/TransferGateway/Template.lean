import TransferGateway.Command

/-!
# Command templates

A template is a text with markers for the facts of a transfer.  Expansion runs in rounds; a
round replaces the markers one after the other, each wherever it stands, and rounds go on until
no marker is left.  Values may join with the text around them into new markers, so a caller
first makes sure that no value holds a marker.
-/

namespace TransferGateway

/-- A marker of a template. -/
inductive Marker where
  | user
  | account
  | basePath
  | file
  | command
deriving DecidableEq, Repr, Inhabited

namespace Marker

/-- The markers in the order in which a round replaces them. -/
def all : List Marker := [.user, .account, .basePath, .file, .command]

/-- The text of a marker. -/
def text : Marker → String
  | .user => "#USER#"
  | .account => "#ACCOUNT#"
  | .basePath => "#BASEPATH#"
  | .file => "#FILE#"
  | .command => "#COMMAND#"

/-- The characters of a marker. -/
def chars (m : Marker) : List Char := m.text.toList

end Marker

/-- The facts of one transfer. -/
structure TransferContext where
  user : String
  account : String
  baseDirectory : String
  file : String
  operation : Operation
deriving DecidableEq, Repr, Inhabited

namespace Text

/-- Whether a text holds another one. -/
def holds (pattern : List Char) : List Char → Bool
  | [] => pattern.isEmpty
  | c :: rest => pattern.isPrefixOf (c :: rest) || holds pattern rest

/-- Replace a nonempty pattern wherever it stands, from left to right, no two places
overlapping.  The number counts the characters of a replaced place still to be passed. -/
def replaceFrom (pattern replacement : List Char) : Nat → List Char → List Char
  | _, [] => []
  | passing + 1, _ :: rest => replaceFrom pattern replacement passing rest
  | 0, c :: rest =>
    if pattern.isPrefixOf (c :: rest) then
      replacement ++ replaceFrom pattern replacement (pattern.length - 1) rest
    else c :: replaceFrom pattern replacement 0 rest

/-- Replace a nonempty pattern wherever it stands. -/
def replaceAll (pattern replacement : List Char) (s : List Char) : List Char :=
  replaceFrom pattern replacement 0 s

end Text

namespace TransferContext

/-- The value of a marker. -/
def valueOf (ctx : TransferContext) : Marker → String
  | .user => ctx.user
  | .account => ctx.account
  | .basePath => ctx.baseDirectory
  | .file => ctx.file
  | .command => ctx.operation.code

end TransferContext

namespace Template

/-- Whether a text holds any marker. -/
def hasMarker (s : List Char) : Bool := Marker.all.any fun m => Text.holds m.chars s

/-- Replace one marker by its value. -/
def substitute (ctx : TransferContext) (s : List Char) (m : Marker) : List Char :=
  Text.replaceAll m.chars (ctx.valueOf m).toList s

/-- One round of substitution. -/
def round (ctx : TransferContext) (s : List Char) : List Char :=
  Marker.all.foldl (substitute ctx) s

/-- Substitute round after round until no marker is left; missing when that never happens. -/
def expandChars (ctx : TransferContext) (s : List Char) : Option (List Char) :=
  if hasMarker s then (expandChars (s := round ctx s)) ctx else some s
partial_fixpoint

/-- Expand a template; the answer is missing when the rounds never end. -/
def expand (ctx : TransferContext) (template : String) : Option String :=
  (expandChars ctx template.toList).map String.ofList

/-- A text turns into another one by full rounds, and that one has no marker. -/
inductive Expands (ctx : TransferContext) : List Char → List Char → Prop where
  | done {s : List Char} (h : hasMarker s = false) : Expands ctx s s
  | next {s t : List Char} (h : hasMarker s = true) (rest : Expands ctx (round ctx s) t) :
      Expands ctx s t

/-- Expansion gives exactly the text that finitely many rounds lead to. -/
theorem expandChars_eq_some_iff {ctx : TransferContext} {s t : List Char} :
    expandChars ctx s = some t ↔ Expands ctx s t := by
  constructor
  · intro h
    refine expandChars.partial_correctness Expands ?_ ctx s t h
    intro expandRest ih ctx s t h
    by_cases hs : hasMarker s = true
    · rw [if_pos hs] at h
      exact .next hs (ih _ _ _ h)
    · rw [if_neg hs] at h
      cases h
      exact .done (by simpa using hs)
  · intro h
    induction h with
    | done h => rw [expandChars, if_neg (by simp [h])]
    | next h _ ih =>
      rw [expandChars, if_pos h]
      exact ih

theorem expand_eq_some_iff {ctx : TransferContext} {template line : String} :
    expand ctx template = some line ↔ Expands ctx template.toList line.toList := by
  rw [← expandChars_eq_some_iff, expand, Option.map_eq_some_iff]
  constructor
  · rintro ⟨s, hs, rfl⟩
    simpa using hs
  · intro h
    exact ⟨line.toList, h, by simp⟩

/-- The first field of a context that holds a marker. -/
def unsafeField? (ctx : TransferContext) : Option String :=
  let fields := [("user", ctx.user), ("account", ctx.account),
    ("base directory", ctx.baseDirectory), ("file", ctx.file)]
  (fields.find? fun field => hasMarker field.2.toList).map Prod.fst

end Template

namespace TransferContext

/-- Where the transferred file is: its name below the base directory, the leading slashes of the
name dropped.  A base directory that is empty or ends with a slash is only put in front. -/
def localPath (ctx : TransferContext) : String :=
  let name := ctx.file.toList.dropWhile fun c => c == '/'
  let base := ctx.baseDirectory.toList
  let joint := if base.isEmpty || base.getLast? == some '/' then [] else ['/']
  String.ofList (base ++ joint ++ name)

end TransferContext

end TransferGateway
