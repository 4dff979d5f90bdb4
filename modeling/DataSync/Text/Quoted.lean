import DataSync.Text.Invisible
import DataSync.Text.Numeral

/-!
# Quoted text

The form in which messages show a text that may hold anything: between double quotes, with
backslash escapes for the quote, the backslash and whatever would not show.
-/

namespace DataSync.Text

/-- One character inside quotes. -/
def quotedChar (c : Char) : List Char :=
  if c = '\x00' then ['\\', '0']
  else if c = '\t' then ['\\', 't']
  else if c = '\r' then ['\\', 'r']
  else if c = '\n' then ['\\', 'n']
  else if c = '\\' then ['\\', '\\']
  else if c = '"' then ['\\', '"']
  else if isInvisible c then ['\\', 'u', '{'] ++ (hex c.toNat).toList ++ ['}']
  else [c]

/-- The text between double quotes. -/
def quoted (text : String) : String :=
  String.ofList (['"'] ++ text.toList.flatMap quotedChar ++ ['"'])

end DataSync.Text
