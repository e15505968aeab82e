import TransferGateway.Text.Visible

/-!
# Quoted texts

A text between double quotes, as messages show paths and values: quotes and backslashes are
escaped, line breaks and tabs have their short escapes, and what cannot be shown is written as
its hexadecimal code point.
-/

namespace TransferGateway.Text

/-- A character inside a quoted text. -/
def escapeChar (c : Char) : List Char :=
  if c = '"' then ['\\', '"']
  else if c = '\\' then ['\\', '\\']
  else if c = '\n' then ['\\', 'n']
  else if c = '\r' then ['\\', 'r']
  else if c = '\t' then ['\\', 't']
  else if c.toNat = 0 then ['\\', '0']
  else if isVisible c then [c]
  else ['\\', 'u', '\x7b'] ++ Nat.toDigits 16 c.toNat ++ ['\x7d']

/-- A text in double quotes. -/
def quote (s : List Char) : List Char := '"' :: s.flatMap escapeChar ++ ['"']

end TransferGateway.Text

namespace TransferGateway

/-- A text in double quotes, escaped for a message. -/
def quoted (s : String) : String := String.ofList (Text.quote s.toList)

end TransferGateway
