import Lockstep.Text.Basic

/-!
# Bytes as text

Reading bytes as UTF-8 never fails: each longest run of bytes that begins a
character and cannot be completed becomes one replacement character, and so
does each byte that can begin none.  A byte order mark is a character like any
other.

The reader is a machine that takes one byte at a time.  Between characters it
is at rest; inside one it knows how many bytes are still to come, the bits so
far, and the interval the next byte must lie in.  The intervals after the lead
bytes 0xE0, 0xED, 0xF0 and 0xF4 are the narrow ones that keep out overlong
forms, surrogates and numbers past U+10FFFF.
-/

namespace Lockstep

namespace Utf8

/-- The character that stands for bytes that are not text. -/
def replacement : Char := '\uFFFD'

/-- Between two characters, or inside one. -/
inductive State where
  | rest
  | within (missing : Nat) (bits : Nat) (low high : Nat)

/-- Takes a byte that begins something. -/
def State.start (b : Nat) : State × Text :=
  if b < 0x80 then (.rest, [Char.ofNat b])
  else if b < 0xC2 then (.rest, [replacement])
  else if b < 0xE0 then (.within 1 (b - 0xC0) 0x80 0xBF, [])
  else if b = 0xE0 then (.within 2 0 0xA0 0xBF, [])
  else if b = 0xED then (.within 2 0xD 0x80 0x9F, [])
  else if b < 0xF0 then (.within 2 (b - 0xE0) 0x80 0xBF, [])
  else if b = 0xF0 then (.within 3 0 0x90 0xBF, [])
  else if b < 0xF4 then (.within 3 (b - 0xF0) 0x80 0xBF, [])
  else if b = 0xF4 then (.within 3 4 0x80 0x8F, [])
  else (.rest, [replacement])

/-- Takes the next byte.  A byte that cannot continue the character at hand ends it with one
replacement and begins something itself. -/
def State.feed (b : Nat) : State → State × Text
  | .rest => State.start b
  | .within missing bits low high =>
    if low ≤ b ∧ b ≤ high then
      let bits := bits * 0x40 + (b - 0x80)
      if missing = 1 then (.rest, [Char.ofNat bits]) else (.within (missing - 1) bits 0x80 0xBF, [])
    else
      let (state, out) := State.start b
      (state, replacement :: out)

/-- Reads the bytes that are left from a given state. -/
def decodeFrom : State → List UInt8 → Text
  | .rest, [] => []
  | .within .., [] => [replacement]
  | state, b :: bytes =>
    let (next, out) := state.feed b.toNat
    out ++ decodeFrom next bytes

/-- The text that the bytes write. -/
def decode (bytes : List UInt8) : Text := decodeFrom .rest bytes

/-- The bytes of a text. -/
def encode (t : Text) : List UInt8 := t.flatMap String.utf8EncodeChar

end Utf8

end Lockstep
