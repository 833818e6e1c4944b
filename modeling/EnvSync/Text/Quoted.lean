/-
# Quoted text

A text between double quotes, on one line and with every character visible.  Quotes,
backslashes, tabs and line ends have escapes of two characters; what is not
printable is named by its code point.
-/
import EnvSync.Text.Printable

namespace EnvSync.Text

/-- The code point of a character in lower-case hexadecimal, as `\u{...}`. -/
def codePointEscape (c : Char) : List Char :=
  '\\' :: 'u' :: '\x7b' :: Nat.toDigits 16 c.toNat ++ ['\x7d']

/-- A character as it stands between quotes. -/
def showChar (c : Char) : List Char :=
  if c = '\x00' then ['\\', '0']
  else if c = '\t' then ['\\', 't']
  else if c = '\n' then ['\\', 'n']
  else if c = '\r' then ['\\', 'r']
  else if c = '"' then ['\\', '"']
  else if c = '\\' then ['\\', '\\']
  else if isPrintable c then [c]
  else codePointEscape c

def showText (s : String) : String :=
  .ofList ('"' :: s.toList.flatMap showChar ++ ['"'])

/-- Texts in quotes, with commas between them and brackets around. -/
def showTexts (ss : List String) : String :=
  "[" ++ ", ".intercalate (ss.map showText) ++ "]"

end EnvSync.Text
