import TransferGateway.Number.Shortest

/-!
# Floating-point numerals

Decimal numerals with an optional sign, fraction and exponent, read to the nearest
double-precision number; `inf`, `infinity` and `nan` are read in any case.
-/

namespace TransferGateway.Number

/-- Split off the decimal digits at the start. -/
def spanDigits (s : List Char) : List Char × List Char := s.span (fun c => '0' ≤ c ∧ c ≤ '9')

/-- The exponent after a mantissa: nothing, or `e`, an optional sign and digits. -/
def exponent? : List Char → Option Int
  | [] => some 0
  | c :: rest => if c = 'e' ∨ c = 'E' then signed? 10 rest else none

/-- The number nearest to `digits * 10 ^ exponent`; far outside the range it is an infinity or
zero. -/
def ofDecimal (negative : Bool) (d : Decimal) : Binary64 :=
  let places : Int := (decimalDigits d.digits).length + d.exponent
  if d.digits = 0 ∨ places < -400 then .finite negative 0
  else if 400 < places then .infinity negative
  else .ofMagnitude negative d.value

/-- A mantissa and exponent without sign. -/
def magnitude? (s : List Char) : Option Decimal :=
  let (whole, rest) := spanDigits s
  let (fraction, rest) :=
    match rest with
    | '.' :: more => spanDigits more
    | _ => ([], rest)
  if whole.isEmpty && fraction.isEmpty then none
  else
    match exponent? rest, readDigits? 10 0 (whole ++ fraction) with
    | some e, some digits => some ⟨digits, e - (fraction.length : Int)⟩
    | _, _ => none

/-- A number without sign, the named ones included. -/
def unsignedFloat? (negative : Bool) (s : List Char) : Option Binary64 :=
  let lowered := s.map Char.toLower
  if lowered = "inf".toList ∨ lowered = "infinity".toList then some (.infinity negative)
  else if lowered = "nan".toList then some .nan
  else (magnitude? s).map (ofDecimal negative)

/-- A floating-point numeral. -/
def float? : List Char → Option Binary64
  | '-' :: rest => unsignedFloat? true rest
  | '+' :: rest => unsignedFloat? false rest
  | rest => unsignedFloat? false rest

end TransferGateway.Number
