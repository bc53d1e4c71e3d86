import Lockstep.Text.Basic

/-!
# Quoted texts

How messages quote paths, patterns and names: between double quotes, with a
backslash before a quote or a backslash, the five short escapes for the common
controls, and four hexadecimal digits for every other control.  All else stands
as it is.
-/

namespace Lockstep

namespace Text

/-- The lower-case hexadecimal digit of a number below sixteen. -/
def hexDigit (n : Nat) : Char :=
  if n < 10 then Char.ofNat ('0'.toNat + n) else Char.ofNat ('a'.toNat + (n - 10))

/-- A character as it is written inside quotes. -/
def escape (c : Char) : Text :=
  if c = '"' then ['\\', '"']
  else if c = '\\' then ['\\', '\\']
  else if c = '\x08' then ['\\', 'b']
  else if c = '\x0c' then ['\\', 'f']
  else if c = '\n' then ['\\', 'n']
  else if c = '\r' then ['\\', 'r']
  else if c = '\t' then ['\\', 't']
  else if c.toNat < 0x20 then
    ['\\', 'u', '0', '0', hexDigit (c.toNat / 16), hexDigit (c.toNat % 16)]
  else [c]

/-- The characters of the quoted text, quotes included. -/
def quoted (t : Text) : Text := '"' :: t.flatMap escape ++ ['"']

/-- The text between quotes, as messages show it. -/
def quote (t : Text) : String := String.ofList (quoted t)

end Text

end Lockstep
