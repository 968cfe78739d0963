import SizeSweep.Text.Printable

/-!
Texts shown between double quotes, as messages show a text that was read.  Quote and backslash
are escaped, the usual controls have a letter each, and every other character without a shape of
its own is written as its code point.
-/

namespace SizeSweep.Text

/-- The code point of a character in lower-case hexadecimal, as `\u` writes it. -/
def codePointEscape (c : Char) : List Char :=
  ['\\', 'u', '\x7b'] ++ Nat.toDigits 16 c.toNat ++ ['\x7d']

/-- How a character is written between quotes. -/
def quotedChar (c : Char) : List Char :=
  if c = '"' then ['\\', '"']
  else if c = '\\' then ['\\', '\\']
  else if c = '\n' then ['\\', 'n']
  else if c = '\r' then ['\\', 'r']
  else if c = '\t' then ['\\', 't']
  else if c = '\x00' then ['\\', '0']
  else if isPrintable c then [c]
  else codePointEscape c

/-- The text between double quotes. -/
def quoted (s : String) : String :=
  String.ofList ('"' :: s.toList.flatMap quotedChar ++ ['"'])

end SizeSweep.Text
