import Gatehouse.Text.Printable

namespace Gatehouse

/-!
# Quoted texts

A text between double quotes in which everything shows: quotes, backslashes and
the common controls are written behind a backslash, and other characters that
would not show on their own by their code point in hexadecimal.
-/

namespace Text

/-- A character by its code point. -/
def codePoint (char : Char) : List Char :=
  ['\\', 'u', '\x7b'] ++ Nat.toDigits 16 char.toNat ++ ['\x7d']

/-- A character as it stands in a quoted text. -/
def quotedChar (char : Char) : List Char :=
  if char = '\x00' then ['\\', '0']
  else if char = '\t' then ['\\', 't']
  else if char = '\r' then ['\\', 'r']
  else if char = '\n' then ['\\', 'n']
  else if char = '\\' then ['\\', '\\']
  else if char = '"' then ['\\', '"']
  else if isExtending char || !isPrintable char then codePoint char
  else [char]

/-- A text between double quotes. -/
def quoted (text : String) : String :=
  String.ofList ('"' :: (text.toList.flatMap quotedChar ++ ['"']))

end Text

end Gatehouse
