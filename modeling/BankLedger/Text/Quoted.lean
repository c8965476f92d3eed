import BankLedger.Text.Visible

/-!
# Quoted text

A text in double quotes for a message: quotes and backslashes are marked with a backslash, the
common control characters have names of their own, and every other character that would not be
visible is spelled by its number.

## Main definitions

* `Text.quoted`: A text in double quotes.
-/

namespace BankLedger

namespace Text

/-- One character inside quotes. -/
def quotedChar (c : Char) : List Char :=
  if c = '\x00' then ['\\', '0']
  else if c = '\t' then ['\\', 't']
  else if c = '\r' then ['\\', 'r']
  else if c = '\n' then ['\\', 'n']
  else if c = '\\' || c = '"' then ['\\', c]
  else if isVisible c then [c]
  else ['\\', 'u', '\x7b'] ++ Nat.toDigits 16 c.toNat ++ ['\x7d']

/-- A text in double quotes. -/
def quoted (s : String) : String :=
  "\"" ++ String.ofList (s.toList.flatMap quotedChar) ++ "\""

end Text

end BankLedger
