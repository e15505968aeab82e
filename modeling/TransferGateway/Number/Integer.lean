/-!
# Integer numerals

Integers as they are written in flags, manifests and environment variables: an optional sign
and at least one digit of the radix, nothing else.
-/

namespace TransferGateway.Number

/-- The value of a digit in the radix: `0`-`9`, then letters of either case. -/
def digitValue? (radix : Nat) (c : Char) : Option Nat :=
  let v? :=
    if '0' ≤ c ∧ c ≤ '9' then some (c.toNat - '0'.toNat)
    else if 'a' ≤ c ∧ c ≤ 'z' then some (c.toNat - 'a'.toNat + 10)
    else if 'A' ≤ c ∧ c ≤ 'Z' then some (c.toNat - 'A'.toNat + 10)
    else none
  match v? with
  | some v => if v < radix then some v else none
  | none => none

/-- Read digits onto an accumulated value. -/
def readDigits? (radix : Nat) : Nat → List Char → Option Nat
  | value, [] => some value
  | value, c :: rest =>
    match digitValue? radix c with
    | some d => readDigits? radix (value * radix + d) rest
    | none => none

/-- The value of a nonempty run of digits. -/
def ofDigits? (radix : Nat) : List Char → Option Nat
  | [] => none
  | c :: rest => readDigits? radix 0 (c :: rest)

/-- An unsigned numeral: digits, perhaps after a plus sign. -/
def unsigned? (radix : Nat) : List Char → Option Nat
  | '+' :: digits => ofDigits? radix digits
  | digits => ofDigits? radix digits

/-- A signed numeral: digits, perhaps after a sign. -/
def signed? (radix : Nat) : List Char → Option Int
  | '-' :: digits => (ofDigits? radix digits).map (fun n => -(n : Int))
  | '+' :: digits => (ofDigits? radix digits).map Int.ofNat
  | digits => (ofDigits? radix digits).map Int.ofNat

/-- An unsigned numeral below `2 ^ bits`. -/
def unsignedWithin? (bits radix : Nat) (s : List Char) : Option Nat :=
  match unsigned? radix s with
  | some n => if n < Nat.pow 2 bits then some n else none
  | none => none

/-- A signed numeral that fits a two's complement word of the given width. -/
def signedWithin? (bits radix : Nat) (s : List Char) : Option Int :=
  match signed? radix s with
  | some n => if -(Nat.pow 2 (bits - 1) : Int) ≤ n ∧ n < (Nat.pow 2 (bits - 1) : Int) then some n
    else none
  | none => none

/-- Why a text is no numeral of a number that fits. -/
inductive NumeralFault where
  | empty
  | digit
  | tooLarge
deriving DecidableEq, Repr, Inhabited

/-- The message of a numeral fault. -/
def NumeralFault.message : NumeralFault → String
  | .empty => "cannot parse integer from empty string"
  | .digit => "invalid digit found in string"
  | .tooLarge => "number too large to fit in target type"

/-- Read decimal digits onto a value that has to stay below a limit; the first fault counts. -/
def readBelow (limit : Nat) : Nat → List Char → Except NumeralFault Nat
  | value, [] => .ok value
  | value, c :: rest =>
    match digitValue? 10 c with
    | none => .error .digit
    | some d =>
      if value * 10 + d < limit then readBelow limit (value * 10 + d) rest else .error .tooLarge

/-- A decimal number below `2 ^ bits`, perhaps behind a plus sign. -/
def decimalWithin (bits : Nat) : List Char → Except NumeralFault Nat
  | [] => .error .empty
  | ['+'] => .error .digit
  | '+' :: digits => readBelow (Nat.pow 2 bits) 0 digits
  | digits => readBelow (Nat.pow 2 bits) 0 digits

/-- The decimal digits of a number. -/
def decimalDigits (n : Nat) : List Char := Nat.toDigits 10 n

/-- A number in decimal, padded with zeros on the left to the given width. -/
def padded (width n : Nat) : String :=
  let digits := decimalDigits n
  String.ofList (List.replicate (width - digits.length) '0' ++ digits)

end TransferGateway.Number
