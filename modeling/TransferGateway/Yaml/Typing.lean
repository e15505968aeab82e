import TransferGateway.Number.FloatNumeral
import TransferGateway.Number.FloatText
import TransferGateway.Text.Escaped
import TransferGateway.Yaml.Node

/-!
# Types of scalars

What a plain scalar means: nothing, a truth value, an integer, a floating-point number or a
text.  Integers are signed or not and as wide as they need to be; digits after a leading zero
are no number.
-/

namespace TransferGateway.Yaml

/-- The value of a scalar. -/
inductive ScalarValue where
  | null
  | boolean (value : Bool)
  /-- An integer of 64 bits without sign. -/
  | unsigned (value : Nat)
  /-- An integer of 64 bits with a sign. -/
  | signed (value : Int)
  /-- An integer that needs 128 bits, with or without sign. -/
  | wide (hasSign : Bool) (value : Int)
  | float (value : Binary64)
  | text (value : String)
deriving DecidableEq, Repr, Inhabited

/-- What a message calls a value that does not fit. -/
def ScalarValue.description : ScalarValue → String
  | .null => "unit value"
  | .boolean b => "boolean \x60" ++ toString b ++ "\x60"
  | .unsigned n => "integer \x60" ++ toString n ++ "\x60"
  | .signed n => "integer \x60" ++ toString n ++ "\x60"
  | .wide hasSign n =>
    "integer \x60" ++ toString n ++ "\x60 as " ++ (if hasSign then "i128" else "u128")
  | .float x => "floating point \x60" ++ x.pointedText ++ "\x60"
  | .text s => "string " ++ quoted s

/-- The ways to write no value. -/
def isNullText (s : String) : Bool := ["null", "Null", "NULL", "~"].contains s

/-- The ways to write a truth value. -/
def boolean? (s : String) : Option Bool :=
  if ["true", "True", "TRUE"].contains s then some true
  else if ["false", "False", "FALSE"].contains s then some false
  else none

/-- Drop a sign of the given kinds. -/
def dropSign (signs : List Char) : List Char → List Char
  | c :: rest => if signs.contains c then rest else c :: rest
  | [] => []

/-- Whether a text begins with a sign. -/
def beginsWithSign (s : List Char) : Bool := s.head? == some '+' || s.head? == some '-'

/-- Digits after a leading zero; they are no number. -/
def isZeroPadded (s : List Char) : Bool :=
  match dropSign ['-', '+'] s with
  | '0' :: c :: rest => (c :: rest).all Char.isDigit
  | _ => false

/-- The digits behind a radix mark, and the radix. -/
def afterRadixMark? : List Char → Option (Nat × List Char)
  | '0' :: 'x' :: rest => some (16, rest)
  | '0' :: 'o' :: rest => some (8, rest)
  | '0' :: 'b' :: rest => some (2, rest)
  | _ => none

/-- An integer without minus sign, below `2 ^ bits`. -/
def unsignedText? (bits : Nat) (s : List Char) : Option Nat :=
  let digits := dropSign ['+'] s
  let value? :=
    match afterRadixMark? digits with
    | some (radix, rest) => Number.ofDigits? radix rest
    | none => if isZeroPadded s then none else Number.ofDigits? 10 digits
  value?.filter fun n => n < Nat.pow 2 bits

/-- An integer with a minus sign that fits a word of the given width. -/
def negativeText? (bits : Nat) (s : List Char) : Option Int :=
  match s with
  | '-' :: digits =>
    let value? :=
      match afterRadixMark? digits with
      | some (radix, rest) => Number.ofDigits? radix rest
      | none => if isZeroPadded s then none else Number.ofDigits? 10 digits
    (value?.filter fun n => n ≤ Nat.pow 2 (bits - 1)).map fun n => -(n : Int)
  | _ => none

/-- An integer of the least width. -/
def integer? (s : List Char) : Option ScalarValue :=
  match unsignedText? 64 s, negativeText? 64 s, unsignedText? 128 s, negativeText? 128 s with
  | some n, _, _, _ => some (.unsigned n)
  | none, some n, _, _ => some (.signed n)
  | none, none, some n, _ => some (.wide false n)
  | none, none, none, some n => some (.wide true n)
  | none, none, none, none => none

/-- A finite floating-point numeral, or one of the names of the other values. -/
def floatText? (s : String) : Option Binary64 :=
  let chars := s.toList
  let positive := dropSign ['+'] chars
  if chars.head? = some '+' ∧ beginsWithSign positive then none
  else if [".inf", ".Inf", ".INF"].contains (String.ofList positive) then some (.infinity false)
  else if ["-.inf", "-.Inf", "-.INF"].contains s then some (.infinity true)
  else if [".nan", ".NaN", ".NAN"].contains s then some .nan
  else
    match Number.float? positive with
    | some (.finite negative q) => some (.finite negative q)
    | _ => none

/-- The value of a plain scalar without tag. -/
def plainValue (s : String) : ScalarValue :=
  let chars := s.toList
  if s.isEmpty || isNullText s then .null
  else
    match boolean? s, integer? chars with
    | some b, _ => .boolean b
    | none, some n => n
    | none, none =>
      match if isZeroPadded chars then none else floatText? s with
      | some x => .float x
      | none => .text s

/-! ## Tagged scalars -/

/-- The message for a value that is of the right type and still wrong. -/
def invalidValue (unexpected expected : String) : String :=
  "invalid value: " ++ unexpected ++ ", expected " ++ expected

/-- The message for a value of the wrong type. -/
def invalidType (unexpected expected : String) : String :=
  "invalid type: " ++ unexpected ++ ", expected " ++ expected

namespace Scalar

/-- The value asked for by a standard tag; the message if the text is none. -/
def tagged (s : Scalar) (value? : Option ScalarValue) (expected : String) :
    Except String ScalarValue :=
  match value? with
  | some v => .ok v
  | none => .error (invalidValue (ScalarValue.text s.text).description expected)

/-- The value of a plain scalar, or the text of another one. -/
def untaggedValue (s : Scalar) : ScalarValue :=
  if s.style = .plain then plainValue s.text else .text s.text

/-- The value of a scalar with its tag taken into account. -/
def value (s : Scalar) (tag : Option Tag) : Except String ScalarValue :=
  match tag with
  | none => .ok s.untaggedValue
  | some t =>
    if t = .boolean then s.tagged ((boolean? s.text).map .boolean) "a boolean"
    else if t = .integer then s.tagged (integer? s.text.toList) "an integer"
    else if t = .float then s.tagged ((floatText? s.text).map .float) "a float"
    else if t = .null then s.tagged (if isNullText s.text then some .null else none) "null"
    else if t.afterMark?.isSome then .ok s.untaggedValue
    else .ok (.text s.text)

/-- Whether a number or truth value may be read from a scalar: it is plain, or a literal block
that the tag of the type stands in front of. -/
def mayHold (s : Scalar) (tag : Option Tag) (expected : Tag) : Bool :=
  s.style == .plain || (s.style == .literal && tag == some expected)

/-- Whether a scalar is an empty plain one. -/
def isVoid (s : Scalar) : Bool := s.style == .plain && s.text.isEmpty

end Scalar

end TransferGateway.Yaml
