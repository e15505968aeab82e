import TransferGateway.Duration.Basic
import TransferGateway.Text.Blank

/-!
# Durations in units

Durations as people write them in a manifest: numbers with units, such as `1h 30m`.  A number may
have a fraction, which has to be exact: in whole seconds for hours and longer units, in whole
nanoseconds for the others.  A duration is written back with the largest units first.
-/

namespace TransferGateway

/-- A unit of time. -/
inductive TimeUnit where
  | nanosecond
  | microsecond
  | millisecond
  | second
  | minute
  | hour
  | day
  | week
  | month
  | year
deriving DecidableEq, Repr, Inhabited

namespace TimeUnit

/-- The units with the names they go by. -/
def names : List (TimeUnit × List String) := [
  (.nanosecond, ["nanos", "nsec", "ns"]),
  (.microsecond, ["usec", "us", "µs"]),
  (.millisecond, ["millis", "msec", "ms"]),
  (.second, ["seconds", "second", "secs", "sec", "s"]),
  (.minute, ["minutes", "minute", "min", "mins", "m"]),
  (.hour, ["hours", "hour", "hr", "hrs", "h"]),
  (.day, ["days", "day", "d"]),
  (.week, ["weeks", "week", "wk", "wks", "w"]),
  (.month, ["months", "month", "M"]),
  (.year, ["years", "year", "yr", "yrs", "y"])]

/-- The unit with the given name. -/
def ofName? (name : String) : Option TimeUnit :=
  (names.find? fun entry => entry.2.contains name).map Prod.fst

/-- The length of a unit in the seconds or nanoseconds that it is counted in. -/
inductive Length where
  | seconds (n : Nat)
  | nanoseconds (n : Nat)

/-- The length of a unit; a month has 30.44 days, and a year 365.25. -/
def length : TimeUnit → Length
  | .nanosecond => .nanoseconds 1
  | .microsecond => .nanoseconds 1000
  | .millisecond => .nanoseconds 1000000
  | .second => .seconds 1
  | .minute => .seconds 60
  | .hour => .seconds 3600
  | .day => .seconds 86400
  | .week => .seconds 604800
  | .month => .seconds 2630016
  | .year => .seconds 31557600

/-- What a fraction of a unit is counted in; of a nanosecond there is none. -/
def fractionLength? : TimeUnit → Option Length
  | .nanosecond => none
  | .second => some (.nanoseconds 1000000000)
  | .minute => some (.nanoseconds 60000000000)
  | unit => some unit.length

end TimeUnit

namespace Duration

/-- The bound of every count that turns up in reading. -/
def countBound : Nat := Nat.pow 2 64

/-- A count, if it is within its bound. -/
def count? (n : Nat) : Option Nat := if n < countBound then some n else none

/-- A number before a unit. -/
structure Quantity where
  whole : Nat := 0
  /-- The digits of a fraction, if there is a point, and ten to their number. -/
  fraction : Option (Nat × Nat) := none
deriving Repr

/-- Add a time to a duration; the seconds must stay within their bound. -/
def addCounted? (d : Duration) (n : Nat) : TimeUnit.Length → Option Duration
  | .seconds unit =>
    (count? (n * unit)).bind fun s =>
      (count? (d.seconds + s)).map fun t => ⟨t * perSecond + d.subsecond⟩
  | .nanoseconds unit =>
    (count? (n * unit)).bind fun part =>
      (count? (d.subsecond + part)).bind fun sum =>
        (count? (d.seconds + sum / perSecond)).map fun t => ⟨t * perSecond + sum % perSecond⟩

/-- Add a fraction of a time to a duration; it has to be exact. -/
def addFraction? (d : Duration) (digits scale : Nat) (length : TimeUnit.Length) :
    Option Duration :=
  let counted := fun (unit : Nat) =>
    (count? (digits * unit)).bind fun n => if n % scale = 0 then some (n / scale) else none
  match length with
  | .seconds unit => (counted unit).bind fun n => d.addCounted? n (.seconds 1)
  | .nanoseconds unit => (counted unit).bind fun n => d.addCounted? n (.nanoseconds 1)

/-- Add a quantity of the unit of the given name. -/
def addQuantity? (d : Duration) (q : Quantity) (unitName : List Char) : Option Duration :=
  (TimeUnit.ofName? (String.ofList unitName)).bind fun unit =>
    (d.addCounted? q.whole unit.length).bind fun sum =>
      match q.fraction with
      | none => some sum
      | some (digits, scale) =>
        unit.fractionLength?.bind fun length => sum.addFraction? digits scale length

/-- Whether a character can be in the name of a unit. -/
def isUnitChar (c : Char) : Bool := c.isAlpha || c == 'µ'

/-- Where reading stands. -/
inductive UnitsState where
  /-- Before a number. -/
  | start
  /-- In the whole part of a number. -/
  | whole (n : Nat)
  /-- Behind the point of a number. -/
  | fraction (n digits scale : Nat)
  /-- In the name of a unit, read in reverse. -/
  | unit (q : Quantity) (name : List Char)
deriving Repr

/-- The value of a decimal digit. -/
def digit? (c : Char) : Option Nat := if c.isDigit then some (c.toNat - '0'.toNat) else none

/-- Read durations from a state on.  Blanks may stand anywhere but in the name of a unit, which
they end. -/
def unitsFrom? (d : Duration) : UnitsState → List Char → Option Duration
  | .start, [] => some d
  | .start, c :: rest =>
    match digit? c with
    | some n => unitsFrom? d (.whole n) rest
    | none => if Text.isBlank c then unitsFrom? d .start rest else none
  | .whole n, c :: rest =>
    match digit? c with
    | some k => (count? (n * 10 + k)).bind fun m => unitsFrom? d (.whole m) rest
    | none =>
      if Text.isBlank c then unitsFrom? d (.whole n) rest
      else if isUnitChar c then unitsFrom? d (.unit ⟨n, none⟩ [c]) rest
      else if c = '.' then unitsFrom? d (.fraction n 0 1) rest
      else none
  | .fraction n digits scale, c :: rest =>
    match digit? c with
    | some k =>
      (count? (scale * 10)).bind fun scale =>
        (count? (digits * 10 + k)).bind fun digits =>
          unitsFrom? d (.fraction n digits scale) rest
    | none =>
      if Text.isBlank c then unitsFrom? d (.fraction n digits scale) rest
      else if isUnitChar c ∧ scale ≠ 1 then
        unitsFrom? d (.unit ⟨n, some (digits, scale)⟩ [c]) rest
      else none
  | .unit q name, [] => d.addQuantity? q name.reverse
  | .unit q name, c :: rest =>
    match digit? c with
    | some n => (d.addQuantity? q name.reverse).bind fun sum => unitsFrom? sum (.whole n) rest
    | none =>
      if Text.isBlank c then
        (d.addQuantity? q name.reverse).bind fun sum => unitsFrom? sum .start rest
      else if isUnitChar c then unitsFrom? d (.unit q (c :: name)) rest
      else none
  | _, [] => none

/-- Read a duration: numbers with units, at least one, or a lone zero. -/
def parse? (s : String) : Option Duration :=
  if s = "0" then some .zero
  else if s.toList.all Text.isBlank then none
  else unitsFrom? .zero .start s.toList

/-- The parts of a duration from years to nanoseconds, with their units. -/
def parts (d : Duration) : List (Nat × String) :=
  let plural := fun (n : Nat) (name : String) => (n, if n = 1 then name else name ++ "s")
  let inYear := d.seconds % 31557600
  let inMonth := inYear % 2630016
  let inDay := inMonth % 86400
  [plural (d.seconds / 31557600) "year", plural (inYear / 2630016) "month",
    plural (inMonth / 86400) "day", (inDay / 3600, "h"), (inDay % 3600 / 60, "m"),
    (inDay % 60, "s"), (d.subsecond / 1000000, "ms"), (d.subsecond / 1000 % 1000, "us"),
    (d.subsecond % 1000, "ns")]

/-- A duration in units, those that would be zero left out. -/
def inUnits (d : Duration) : String :=
  if d.nanoseconds = 0 then "0s"
  else
    " ".intercalate ((d.parts.filter fun part => part.1 != 0).map fun part =>
      toString part.1 ++ part.2)

end Duration

end TransferGateway
