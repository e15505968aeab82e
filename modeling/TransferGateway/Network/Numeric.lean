import TransferGateway.Number.Integer
import TransferGateway.Text.Split

/-!
# Numeric network addresses

The written forms of the addresses of machines: four numbers between dots, or up to eight
hexadecimal groups between colons.  The older loose forms of the first kind are here too.
-/

namespace TransferGateway.Network

/-- Whether a text is a decimal number up to 255 without needless zeros. -/
def isOctetNumeral (s : List Char) : Bool :=
  match Number.ofDigits? 10 s with
  | some n => n ≤ 255 && (s.length = 1 || s.head? != some '0')
  | none => false

/-- Whether a text is four numbers between dots. -/
def isDotted (s : List Char) : Bool :=
  let parts := Text.splitAtChar '.' s
  parts.length = 4 && parts.all isOctetNumeral

/-- Whether a text is a group of up to four hexadecimal digits. -/
def isGroup (s : List Char) : Bool := s.length ≤ 4 && (Number.ofDigits? 16 s).isSome

/-- How many groups pieces between colons stand for; the last may be four numbers between dots,
which stand for two. -/
def groupCount? : List (List Char) → Option Nat
  | [] => some 0
  | [piece] => if isGroup piece then some 1 else if isDotted piece then some 2 else none
  | piece :: rest => if isGroup piece then (groupCount? rest).map (· + 1) else none

/-- Split at the first two colons in a row, which stand for groups left out. -/
def splitGap : List Char → Option (List Char × List Char)
  | ':' :: ':' :: rest => some ([], rest)
  | c :: rest => (splitGap rest).map fun (head, tail) => (c :: head, tail)
  | [] => none

/-- The pieces between colons, of which an empty text has none. -/
def colonPieces (s : List Char) : List (List Char) :=
  if s.isEmpty then [] else Text.splitAtChar ':' s

/-- Whether a text is eight groups, or fewer with a gap. -/
def isGrouped (s : List Char) : Bool :=
  match splitGap s with
  | none => groupCount? (colonPieces s) == some 8
  | some (head, tail) =>
    let front := colonPieces head
    match groupCount? (colonPieces tail) with
    | some count => front.all isGroup && front.length + count ≤ 7
    | none => false

/-- Whether a text is the address of a machine. -/
def isNumeric (s : List Char) : Bool := isDotted s || isGrouped s

/-- A number that is hexadecimal behind `0x` and octal behind another zero. -/
def looseNumber? : List Char → Option Nat
  | '0' :: c :: digits =>
    if c = 'x' ∨ c = 'X' then
      if digits.isEmpty then some 0 else Number.ofDigits? 16 digits
    else Number.ofDigits? 8 (c :: digits)
  | s => Number.ofDigits? 10 s

/-- Whether numbers make up an address of four octets: the last number fills the octets that the
others leave. -/
def fillsAddress (numbers : List Nat) : Bool :=
  match numbers.getLast? with
  | none => false
  | some final =>
    numbers.length ≤ 4 && numbers.dropLast.all (· ≤ 255) &&
      final < Nat.pow 256 (5 - numbers.length)

/-- Whether pieces between dots are an address in the loose form. -/
def isLoose (parts : List (List Char)) : Bool :=
  match parts.mapM looseNumber? with
  | some numbers => fillsAddress numbers
  | none => false

end TransferGateway.Network
