import ModuleArchive.Text.Printable

/-!
# Texts in quotes

How messages show a text that may hold anything: between double quotes, with escapes for
quotes, backslashes, the common controls and everything that has no picture of its own.
-/
namespace ModuleArchive.Text

/-- A code point in hexadecimal between braces. -/
def codePointEscape (c : Char) : List Char :=
  '\\' :: 'u' :: '\x7b' :: (Nat.toDigits 16 c.toNat ++ ['\x7d'])

/-- One character between quotes. -/
def quotedChar (c : Char) : List Char :=
  if c = '\x00' then ['\\', '0']
  else if c = '\t' then ['\\', 't']
  else if c = '\r' then ['\\', 'r']
  else if c = '\n' then ['\\', 'n']
  else if c = '"' then ['\\', '"']
  else if c = '\\' then ['\\', '\\']
  else if isExtender c || !isPrintable c then codePointEscape c
  else [c]

/-- A text between quotes. -/
def quoted (text : List Char) : List Char := '"' :: (text.flatMap quotedChar ++ ['"'])

end ModuleArchive.Text
