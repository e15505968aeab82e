import TransferGateway.Number.Shortest

/-!
# Text of double-precision numbers

Three written forms: positional with the shortest digits, the form of a manifest (a point or an
exponent is always present), and a fixed number of places.
-/

namespace TransferGateway.Number

/-- The given number of zeros. -/
def zeros (n : Nat) : List Char := List.replicate n '0'

/-- Digits in positional notation, without a point when the number is whole. -/
def positional (d : Decimal) : List Char :=
  let ds := decimalDigits d.digits
  let places : Int := ds.length + d.exponent
  if places ≤ 0 then '0' :: '.' :: zeros (-places).toNat ++ ds
  else if (ds.length : Int) ≤ places then ds ++ zeros d.exponent.toNat
  else ds.take places.toNat ++ '.' :: ds.drop places.toNat

/-- The exponent mark and exponent of scientific notation. -/
def exponentMark (n : Int) : List Char :=
  if n < 0 then 'e' :: '-' :: decimalDigits n.natAbs else 'e' :: decimalDigits n.natAbs

/-- Digits as a manifest has them: positional from `1e-5` up to `1e16`, with a point always, and
scientific outside. -/
def manifestDigits (d : Decimal) : List Char :=
  let ds := decimalDigits d.digits
  let places : Int := ds.length + d.exponent
  if 0 ≤ d.exponent ∧ places ≤ 16 then ds ++ zeros d.exponent.toNat ++ ['.', '0']
  else if -5 < places ∧ places ≤ 16 then positional d
  else
    match ds with
    | [c] => c :: exponentMark (places - 1)
    | c :: rest => c :: '.' :: rest ++ exponentMark (places - 1)
    | [] => []

/-- A sign in front of a text. -/
def withSign (negative : Bool) (digits : List Char) : List Char :=
  if negative then '-' :: digits else digits

end TransferGateway.Number

namespace TransferGateway.Binary64
open TransferGateway.Number

/-- Shortest digits, never an exponent: `1.5`, `2`, `NaN`, `-inf`. -/
def plainText : Binary64 → String
  | .nan => "NaN"
  | .infinity negative => if negative then "-inf" else "inf"
  | .finite negative q =>
    let digits := if q = 0 then ['0'] else positional (shortest q)
    String.ofList (withSign negative digits)

/-- Shortest digits with a point, for messages: `1.5`, `2.0`, `1000.0`. -/
def pointedText : Binary64 → String
  | .finite negative q =>
    let digits := if q = 0 then ['0'] else positional (shortest q)
    let pointed := if digits.contains '.' then digits else digits ++ ['.', '0']
    String.ofList (withSign negative pointed)
  | x => x.plainText

/-- The form of a manifest: `1.0`, `1e16`, `.nan`, `-.inf`. -/
def manifestText : Binary64 → String
  | .nan => ".nan"
  | .infinity negative => if negative then "-.inf" else ".inf"
  | .finite negative q =>
    let digits := if q = 0 then ['0', '.', '0'] else manifestDigits (shortest q)
    String.ofList (withSign negative digits)

/-- The nearest number with the given count of places after the point, ties to even. -/
def fixedText (places : Nat) : Binary64 → String
  | .finite negative q =>
    let scaled := nearest (q * (Nat.pow 10 places : Nat))
    let whole := decimalDigits (scaled / Nat.pow 10 places)
    let part := padded places (scaled % Nat.pow 10 places)
    String.ofList (withSign negative (whole ++ '.' :: part.toList))
  | x => x.plainText

/-- The sixteen lower-case hexadecimal digits of the bit pattern. -/
def hexText (x : Binary64) : String :=
  let digits := Nat.toDigits 16 x.toBits
  String.ofList (zeros (16 - digits.length) ++ digits)

end TransferGateway.Binary64
