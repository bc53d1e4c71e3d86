import Lockstep.Text.Blank
import Lockstep.Text.Utf8

/-!
# Paths in a diff

How the header of a diff writes a path: maybe in quotes, with a byte that is not
plain text as a backslash and up to three octal digits, and behind a prefix of one
character and a slash.
-/

namespace Lockstep

namespace PathName

/-- What a diff writes for a file that is not there. -/
def devNull : Text := "/dev/null".toList

/-- Whether a character is an octal digit. -/
def isOctal (c : Char) : Bool := '0' ≤ c && c ≤ '7'

/-- What stands directly before the next character of a written path. -/
inductive Place where
  | plain
  /-- A backslash. -/
  | escape
  /-- A backslash and `digits` octal digits that write `value`. -/
  | octal (digits value : Nat)

/-- The bytes that a character without a meaning of its own stands for. -/
def plainBytes (c : Char) : List UInt8 := String.utf8EncodeChar c

/-- The bytes that a written path stands for.  An octal number counts modulo 256, and a backslash
before anything but octal digits, a quote or a backslash stands for itself. -/
def bytes : Place → Text → List UInt8
  | .plain, [] => []
  | .escape, [] => plainBytes '\\'
  | .octal _ value, [] => [UInt8.ofNat value]
  | .plain, c :: rest => if c = '\\' then bytes .escape rest else plainBytes c ++ bytes .plain rest
  | .escape, c :: rest =>
    if isOctal c then bytes (.octal 1 (c.toNat - '0'.toNat)) rest
    else if c = '"' || c = '\\' then plainBytes c ++ bytes .plain rest
    else plainBytes '\\' ++ plainBytes c ++ bytes .plain rest
  | .octal digits value, c :: rest =>
    if isOctal c && digits < 3 then
      bytes (.octal (digits + 1) (value * 8 + (c.toNat - '0'.toNat))) rest
    else
      UInt8.ofNat value ::
        (if c = '\\' then bytes .escape rest else plainBytes c ++ bytes .plain rest)

/-- The text without quotes of one kind around it. -/
def unquote (t : Text) : Text :=
  let isAround (q : Char) : Bool := t.head? = some q && t.getLast? = some q
  if isAround '"' || isAround '\'' then (t.drop 1).dropLast else t

/-- The path without a prefix of one character and a slash.  A character of two units is no such
prefix. -/
def dropPrefix (path : Text) : Text :=
  match path with
  | c :: '/' :: rest => if c.toNat < 0x10000 then rest else path
  | _ => path

/-- The path that a header writes. -/
def decode (header : Text) : Text :=
  let written := header.trim
  if written = devNull then written
  else dropPrefix (Utf8.decode (bytes .plain (unquote written)))

end PathName

end Lockstep
