import TransferGateway.Number.Integer

/-!
# Octets as text

Octets read as text in the encoding UTF-8: strictly, with the place of the first fault, or
leniently, with a sign in the place of every fault.  Texts may also write octets as two
hexadecimal digits behind a percent sign.
-/

namespace TransferGateway.Text

/-- What an octet that begins a character asks of the octets behind it: how many there are, and
the range that the next one lies in. -/
structure Continuation where
  count : Nat
  low : Nat := 0x80
  high : Nat := 0xBF
deriving DecidableEq, Repr

/-- What the first octet of a character asks for; nothing, if no character begins with it. -/
def continuation? (first : Nat) : Option Continuation :=
  if first < 0x80 then some { count := 0 }
  else if 0xC2 ≤ first ∧ first ≤ 0xDF then some { count := 1 }
  else if first = 0xE0 then some { count := 2, low := 0xA0 }
  else if first = 0xED then some { count := 2, high := 0x9F }
  else if 0xE1 ≤ first ∧ first ≤ 0xEF then some { count := 2 }
  else if first = 0xF0 then some { count := 3, low := 0x90 }
  else if 0xF1 ≤ first ∧ first ≤ 0xF3 then some { count := 3 }
  else if first = 0xF4 then some { count := 3, high := 0x8F }
  else none

/-- A piece of octets. -/
inductive Piece where
  /-- The octets of a character. -/
  | character (octets : List UInt8)
  /-- As many octets as cannot be part of a character, whatever follows. -/
  | fault (length : Nat)
  /-- A character that the octets end within. -/
  | cut
deriving DecidableEq, Repr

/-- The pieces of octets, of which those before belong to a character that asks for more. -/
def piecesAfter (before : List UInt8) (asked : Continuation) : List UInt8 → List Piece
  | [] => if before.isEmpty then [] else [.cut]
  | octet :: rest =>
    let continues := !before.isEmpty && asked.low ≤ octet.toNat && octet.toNat ≤ asked.high
    if continues then
      if asked.count ≤ 1 then .character (before ++ [octet]) :: piecesAfter [] { count := 0 } rest
      else piecesAfter (before ++ [octet]) { count := asked.count - 1 } rest
    else
      let broken := if before.isEmpty then [] else [Piece.fault before.length]
      broken ++
        match continuation? octet.toNat with
        | none => .fault 1 :: piecesAfter [] { count := 0 } rest
        | some next =>
          if next.count = 0 then .character [octet] :: piecesAfter [] { count := 0 } rest
          else piecesAfter [octet] next rest

/-- The pieces of octets. -/
def pieces (octets : List UInt8) : List Piece := piecesAfter [] { count := 0 } octets

/-- Why octets are no text. -/
structure EncodingFault where
  /-- How many octets of text stand before the fault. -/
  index : Nat
  /-- How many octets are at fault, unless it is that more should follow. -/
  length : Option Nat
deriving DecidableEq, Repr, Inhabited

/-- The message of an encoding fault. -/
def EncodingFault.message (f : EncodingFault) : String :=
  match f.length with
  | some n =>
    "invalid utf-8 sequence of " ++ toString n ++ " bytes from index " ++ toString f.index
  | none => "incomplete utf-8 byte sequence from index " ++ toString f.index

/-- The first fault among pieces that begin at an index. -/
def firstFault? (index : Nat) : List Piece → Option EncodingFault
  | [] => none
  | .character octets :: rest => firstFault? (index + octets.length) rest
  | .fault length :: _ => some ⟨index, some length⟩
  | .cut :: _ => some ⟨index, none⟩

/-- The text that octets make up. -/
def ofOctets (octets : List UInt8) : Except EncodingFault String :=
  match firstFault? 0 (pieces octets) with
  | some fault => .error fault
  | none => .ok ((String.fromUTF8? octets.toByteArray).getD "")

/-- The octets that a piece is shown as. -/
def Piece.shown : Piece → List UInt8
  | .character octets => octets
  | _ => String.utf8EncodeChar '\ufffd'

/-- The text that octets make up, with a sign for every fault. -/
def ofOctetsLeniently (octets : List UInt8) : String :=
  (String.fromUTF8? ((pieces octets).flatMap Piece.shown).toByteArray).getD ""

/-- The octet that two hexadecimal digits write. -/
def hexOctet? (c d : Char) : Option UInt8 :=
  match Number.digitValue? 16 c, Number.digitValue? 16 d with
  | some high, some low => some (UInt8.ofNat (16 * high + low))
  | _, _ => none

/-- The octets of a text, in which a percent sign before two hexadecimal digits writes one. -/
def percentDecode : List Char → List UInt8
  | '%' :: c :: d :: rest =>
    match hexOctet? c d with
    | some octet => octet :: percentDecode rest
    | none => String.utf8EncodeChar '%' ++ percentDecode (c :: d :: rest)
  | c :: rest => String.utf8EncodeChar c ++ percentDecode rest
  | [] => []

end TransferGateway.Text
