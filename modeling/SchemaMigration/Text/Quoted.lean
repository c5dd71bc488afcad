import SchemaMigration.Text.Hidden
import SchemaMigration.Text.Numeral

/-!
# Quoted text

A text between double quotes, as messages show it: quotes, backslashes, the common controls and
characters without a shape of their own are escaped, so the text reads on one line and says exactly
which characters it holds.
-/

namespace SchemaMigration.Text

/-- The escape of one character inside quotes. -/
def escape (c : Char) : List Char :=
  if c = '\x22' then ['\\', '\x22']
  else if c = '\\' then ['\\', '\\']
  else if c = '\n' then ['\\', 'n']
  else if c = '\r' then ['\\', 'r']
  else if c = '\t' then ['\\', 't']
  else if c.toNat = 0 then ['\\', '0']
  else if isHidden c then
    ['\\', 'u', '\x7b'] ++ (hexadecimal c.toNat).toList ++ ['\x7d']
  else [c]

/-- A text in double quotes with its escapes. -/
def quoted (s : String) : String :=
  String.ofList ('\x22' :: (s.toList.flatMap escape ++ ['\x22']))

end SchemaMigration.Text
