/-!
# Tags of YAML

A tag says what a node is: one of the standard types, or, behind an exclamation mark, a name of
the document's own.  Escapes in it stand for octets, which need not make characters.
-/

namespace TransferGateway.Yaml

/-- The octets of a text. -/
def octetsOf (s : String) : List UInt8 := s.toList.flatMap String.utf8EncodeChar

/-- What a zero octet leaves of a text: the octets before it. -/
def beforeZero (octets : List UInt8) : List UInt8 := octets.takeWhile fun o => o != 0

/-- A tag in full. -/
structure Tag where
  octets : List UInt8
deriving DecidableEq, Repr, Inhabited

namespace Tag

/-- What every standard tag begins with. -/
def standardStart : List UInt8 := octetsOf "tag:yaml.org,2002:"

/-- A standard tag. -/
def standard (name : String) : Tag := ⟨standardStart ++ octetsOf name⟩

/-- The tag of truth values. -/
def boolean : Tag := standard "bool"

/-- The tag of integers. -/
def integer : Tag := standard "int"

/-- The tag of floating-point numbers. -/
def float : Tag := standard "float"

/-- The tag of no value. -/
def null : Tag := standard "null"

/-- The octets behind the exclamation mark of a tag of the document's own. -/
def afterMark? (t : Tag) : Option (List UInt8) :=
  match t.octets with
  | mark :: rest => if mark.toNat = '!'.toNat then some rest else none
  | [] => none

/-- The name in a tag of the document's own, if its octets make characters; a mark alone is its
own name. -/
def name? (t : Tag) : Option String :=
  match t.afterMark? with
  | none => none
  | some [] => some "!"
  | some octets => String.fromUTF8? octets.toByteArray

end Tag

/-- A tag as written: a handle, which stands for its beginning, and the octets behind it. -/
structure TagText where
  handle : String
  suffix : List UInt8
deriving DecidableEq, Repr, Inhabited

end TransferGateway.Yaml
