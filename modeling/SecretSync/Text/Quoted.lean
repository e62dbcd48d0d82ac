import SecretSync.Text.Printable

/-!
# `SecretSync.Text.Quoted`: texts between quotation marks

Messages quote what a server sent. A quoted text is put between double
quotes; a double quote, a backslash and the four controls with a letter of
their own get a backslash, and every other character that is not printable is
written as its hexadecimal code point in braces. Single quotes stay as they
are.
-/

set_option autoImplicit false

namespace SecretSync.Text

/-- One character inside a quoted text. -/
def quotedChar (c : Char) : List Char :=
  if c = '"' then ['\\', '"']
  else if c = '\\' then ['\\', '\\']
  else if c = '\n' then ['\\', 'n']
  else if c = '\t' then ['\\', 't']
  else if c = '\r' then ['\\', 'r']
  else if c = Char.ofNat 0 then ['\\', '0']
  else if 32 ≤ c.toNat ∧ c.toNat < 127 then [c]
  else if isPrintable c then [c]
  else ['\\', 'u', '\x7b'] ++ Nat.toDigits 16 c.toNat ++ ['\x7d']

/-- The text between double quotes. -/
def quoted (s : String) : String :=
  String.ofList ('"' :: s.toList.flatMap quotedChar ++ ['"'])

end SecretSync.Text
