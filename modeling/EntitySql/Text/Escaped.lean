import EntitySql.Text.Printable

/-!
# Escaped text

The form in which diagnostics show a text: between double quotes, with a backslash before
a quote or a backslash, short escapes for the common controls, and the code point in
hexadecimal for every other character that has no visible form of its own.
-/

namespace EntitySql.Text

/-- The hexadecimal digits of a code point between braces, after a backslash and `u`. -/
def codePointEscape (c : Char) : List Char :=
  ['\\', 'u', '\x7b'] ++ Nat.toDigits 16 c.toNat ++ ['\x7d']

def escapeChar (c : Char) : List Char :=
  if c = '\x00' then ['\\', '0']
  else if c = '\t' then ['\\', 't']
  else if c = '\r' then ['\\', 'r']
  else if c = '\n' then ['\\', 'n']
  else if c = '"' then ['\\', '"']
  else if c = '\\' then ['\\', '\\']
  else if extendsGrapheme c then codePointEscape c
  else if isPrintable c then [c]
  else codePointEscape c

/-- A text between double quotes, escaped. -/
def escaped (s : String) : String :=
  String.ofList ('"' :: (s.toList.flatMap escapeChar ++ ['"']))

end EntitySql.Text
