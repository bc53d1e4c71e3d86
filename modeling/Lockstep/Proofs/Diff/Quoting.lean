import Lockstep.Patch.PathName
import Lockstep.Proofs.Text
import Lockstep.Proofs.Utf8

/-!
# Paths in quotes

In quotes a path can be written in many ways.  Each of its characters stands for
itself, or for its bytes there are octal numbers of three digits, and a quote or a
backslash may stand behind a backslash.  The ways mix freely (`Spelling`).

* `PathName.bytes_octalByte`: three digits are a whole number, so that a digit which
  follows them is a character of its own.
* `PathName.Spelling.bytes_text`: however a character is written, its bytes are read.
* `PathName.decode_quoted`: so the path comes back, without the letter of its side.
-/

namespace Lockstep

namespace PathName

/-! ## Writing -/

/-- An octal digit. -/
def octalDigit (n : Fin 8) : Char := Char.ofNat ('0'.toNat + n)

/-- A byte as a backslash and three octal digits. -/
def octalByte (b : UInt8) : Text :=
  ['\\', octalDigit ⟨b.toNat / 64, by have := b.toNat_lt; omega⟩,
    octalDigit ⟨b.toNat / 8 % 8, Nat.mod_lt _ (by decide)⟩,
    octalDigit ⟨b.toNat % 8, Nat.mod_lt _ (by decide)⟩]

/-- A way to write a character in quotes. -/
inductive Spelling where
  /-- As it is. -/
  | plain (c : Char) (ordinary : c ≠ '"' ∧ c ≠ '\\')
  /-- By its bytes. -/
  | octal (c : Char)
  /-- Behind a backslash. -/
  | escaped (c : Char) (special : c = '"' ∨ c = '\\')

namespace Spelling

/-- The character that is meant. -/
def char : Spelling → Char
  | plain c _ => c
  | octal c => c
  | escaped c _ => c

/-- What is written for it. -/
def text : Spelling → Text
  | plain c _ => [c]
  | octal c => (String.utf8EncodeChar c).flatMap octalByte
  | escaped c _ => ['\\', c]

end Spelling

/-- A path in quotes, behind the letter of the old side. -/
def quoted (path : List Spelling) : Text :=
  '"' :: ("a/".toList ++ path.flatMap Spelling.text ++ ['"'])

/-! ## Reading -/

theorem isOctal_octalDigit (n : Fin 8) : isOctal (octalDigit n) = true := by
  revert n
  decide

theorem value_octalDigit (n : Fin 8) : (octalDigit n).toNat - '0'.toNat = n := by
  revert n
  decide

/-- Behind three digits an octal number ends, whatever follows. -/
theorem bytes_octal_three (value : Nat) (rest : Text) :
    bytes (.octal 3 value) rest = UInt8.ofNat value :: bytes .plain rest := by
  cases rest with
  | nil => rfl
  | cons c rest =>
    rw [bytes, bytes]
    simp

theorem bytes_octalByte (b : UInt8) (rest : Text) :
    bytes .plain (octalByte b ++ rest) = b :: bytes .plain rest := by
  have hvalue : (b.toNat / 64 * 8 + b.toNat / 8 % 8) * 8 + b.toNat % 8 = b.toNat := by
    have := b.toNat_lt
    omega
  simp only [octalByte, List.cons_append, List.nil_append]
  rw [bytes, if_pos rfl, bytes, if_pos (isOctal_octalDigit _), bytes, isOctal_octalDigit,
    if_pos (by decide), bytes, isOctal_octalDigit, if_pos (by decide), bytes_octal_three]
  simp only [value_octalDigit, hvalue, UInt8.ofNat_toNat]

theorem bytes_octalBytes (bs : List UInt8) (rest : Text) :
    bytes .plain (bs.flatMap octalByte ++ rest) = bs ++ bytes .plain rest := by
  induction bs with
  | nil => rfl
  | cons b bs ih =>
    rw [List.flatMap_cons, List.append_assoc, bytes_octalByte, ih, List.cons_append]

/-- However a character is written, its bytes are read, and then what follows. -/
theorem Spelling.bytes_text (s : Spelling) (rest : Text) :
    bytes .plain (s.text ++ rest) = String.utf8EncodeChar s.char ++ bytes .plain rest := by
  cases s with
  | plain c ordinary =>
    show bytes .plain (c :: rest) = _
    rw [bytes, if_neg ordinary.2]
    rfl
  | octal c => exact bytes_octalBytes _ rest
  | escaped c special =>
    show bytes .plain ('\\' :: c :: rest) = _
    rcases special with rfl | rfl
    · simp [bytes, isOctal, plainBytes, char]
    · simp [bytes, isOctal, plainBytes, char]

theorem bytes_spelled (path : List Spelling) :
    bytes .plain (path.flatMap Spelling.text) = Utf8.encode (path.map Spelling.char) := by
  induction path with
  | nil => rfl
  | cons s path ih =>
    rw [List.flatMap_cons, s.bytes_text, ih]
    rfl

theorem trim_quoted (path : List Spelling) : Text.trim (quoted path) = quoted path := by
  have hquote : Text.isBlank '"' = false := by decide
  rw [Text.trim, quoted, Text.trimStart_cons hquote, ← List.cons_append, Text.trimEnd_concat hquote]

theorem unquote_quoted (path : List Spelling) :
    unquote (quoted path) = "a/".toList ++ path.flatMap Spelling.text := by
  have hlast : (quoted path).getLast? = some '"' := by
    rw [quoted, ← List.cons_append, List.getLast?_concat]
  have hhead : (quoted path).head? = some '"' := rfl
  have hinner : ((quoted path).drop 1).dropLast = "a/".toList ++ path.flatMap Spelling.text :=
    List.dropLast_concat
  rw [unquote, hlast, hhead]
  exact hinner

/-- A path in quotes is read as the path that is meant, whatever way its characters are written. -/
theorem decode_quoted (path : List Spelling) : decode (quoted path) = path.map Spelling.char := by
  have hside (t : Text) : bytes .plain ("a/".toList ++ t) =
      Utf8.encode "a/".toList ++ bytes .plain t :=
    rfl
  have hname : quoted path ≠ devNull := by
    intro h
    cases congrArg List.head? h
  have hencode : Utf8.encode "a/".toList ++ Utf8.encode (path.map Spelling.char) =
      Utf8.encode ("a/".toList ++ path.map Spelling.char) := by
    rw [Utf8.encode, Utf8.encode, Utf8.encode, List.flatMap_append]
  rw [decode, trim_quoted]
  simp only [hname, if_false]
  rw [unquote_quoted, hside, bytes_spelled, hencode, Utf8.decode_encode]
  rfl

end PathName

end Lockstep
