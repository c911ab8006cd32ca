import MarkupQuery.Text.Visible

/-!
Text between double quotation marks, as it appears in messages. Quotation marks, backslashes and
four controls are written after a backslash, other characters without a visible form by their
number.
-/
namespace MarkupQuery.Text

/-- The digits of a number in base sixteen. -/
def hexDigits (n : Nat) : Text := Nat.toDigits 16 n

def quoteChar (c : Char) : Text :=
  if c == '\x00' then ['\\', '0']
  else if c == '\t' then ['\\', 't']
  else if c == '\n' then ['\\', 'n']
  else if c == '\r' then ['\\', 'r']
  else if c == '"' then ['\\', '"']
  else if c == '\\' then ['\\', '\\']
  else if isVisible c then [c]
  else ['\\', 'u', '{'] ++ hexDigits c.toNat ++ ['}']

/-- The text in quotation marks. -/
def quoted (text : Text) : Text := '"' :: text.flatMap quoteChar ++ ['"']

end MarkupQuery.Text
