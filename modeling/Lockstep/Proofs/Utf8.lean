import Mathlib.Tactic.Common
import Lockstep.Text.Utf8

/-!
# Text, written as bytes and read again

Reading bytes never fails, and of the bytes of a text it makes the same text
(`Utf8.decode_encode`).  The reader takes one character after the other: from
between two characters it reads the bytes of a character as this character and
is between two characters again (`Utf8.decodeFrom_utf8EncodeChar`).
-/

namespace Lockstep

namespace Utf8

theorem decodeFrom_cons (state : State) (b : UInt8) (bytes : List UInt8) :
    decodeFrom state (b :: bytes) =
      (state.feed b.toNat).2 ++ decodeFrom (state.feed b.toNat).1 bytes := by
  cases state <;> rfl

/-! ## Lead bytes -/

theorem start_two {k : Nat} (hlow : 2 ≤ k) (hhigh : k < 32) :
    State.start (k + 0xC0) = (.within 1 k 0x80 0xBF, []) := by
  rw [State.start, if_neg (by omega), if_neg (by omega), if_pos (by omega), Nat.add_sub_cancel]

/-- A lead byte of three takes what fits it: behind the first one no overlong form, and behind the
one of the surrogates none of these. -/
theorem start_three {k : Nat} (hhigh : k < 16) : ∃ low high,
    State.start (k + 0xE0) = (.within 2 k low high, []) ∧
      ∀ b, 0x80 ≤ b → b ≤ 0xBF → (k = 0 → 0xA0 ≤ b) → (k = 0xD → b ≤ 0x9F) →
        low ≤ b ∧ b ≤ high := by
  by_cases hzero : k = 0
  · subst hzero
    exact ⟨0xA0, 0xBF, rfl, fun b _ hb h _ => ⟨h rfl, hb⟩⟩
  by_cases hsurrogate : k = 0xD
  · subst hsurrogate
    exact ⟨0x80, 0x9F, rfl, fun b hb _ _ h => ⟨hb, h rfl⟩⟩
  refine ⟨0x80, 0xBF, ?_, fun b hb hb' _ _ => ⟨hb, hb'⟩⟩
  rw [State.start, if_neg (by omega), if_neg (by omega), if_neg (by omega), if_neg (by omega),
    if_neg (by omega), if_pos (by omega), Nat.add_sub_cancel]

theorem start_four {k : Nat} (hhigh : k < 5) : ∃ low high,
    State.start (k + 0xF0) = (.within 3 k low high, []) ∧
      ∀ b, 0x80 ≤ b → b ≤ 0xBF → (k = 0 → 0x90 ≤ b) → (k = 4 → b ≤ 0x8F) → low ≤ b ∧ b ≤ high := by
  by_cases hzero : k = 0
  · subst hzero
    exact ⟨0x90, 0xBF, rfl, fun b _ hb h _ => ⟨h rfl, hb⟩⟩
  by_cases hlast : k = 4
  · subst hlast
    exact ⟨0x80, 0x8F, rfl, fun b hb _ _ h => ⟨hb, h rfl⟩⟩
  refine ⟨0x80, 0xBF, ?_, fun b hb hb' _ _ => ⟨hb, hb'⟩⟩
  rw [State.start, if_neg (by omega), if_neg (by omega), if_neg (by omega), if_neg (by omega),
    if_neg (by omega), if_neg (by omega), if_neg (by omega), if_pos (by omega), Nat.add_sub_cancel]

/-! ## Further bytes -/

theorem feed_last {bits low high b : Nat} (h : low ≤ b ∧ b ≤ high) :
    (State.within 1 bits low high).feed b = (.rest, [Char.ofNat (bits * 0x40 + (b - 0x80))]) := by
  rw [State.feed, if_pos h, if_pos rfl]

theorem feed_more {missing bits low high b : Nat} (hmissing : missing ≠ 1)
    (h : low ≤ b ∧ b ≤ high) :
    (State.within missing bits low high).feed b =
      (.within (missing - 1) (bits * 0x40 + (b - 0x80)) 0x80 0xBF, []) := by
  rw [State.feed, if_pos h, if_neg hmissing]

/-! ## Characters -/

theorem toNat_char_lt (c : Char) : c.toNat < 0xD800 ∨ 0xDFFF < c.toNat ∧ c.toNat < 0x110000 :=
  c.valid

/-- The bytes of a character are read as this character. -/
theorem decodeFrom_utf8EncodeChar (c : Char) (bytes : List UInt8) :
    decodeFrom .rest (String.utf8EncodeChar c ++ bytes) = c :: decodeFrom .rest bytes := by
  have hvalid := toNat_char_lt c
  have hofNat : Char.ofNat c.toNat = c := Char.ofNat_toNat c
  have hv : c.val.toNat = c.toNat := rfl
  unfold String.utf8EncodeChar
  simp only [hv]
  generalize c.toNat = v at *
  have hbyte : ∀ {n : Nat}, n < 256 → (UInt8.ofNat n).toNat = n := fun h => by
    rw [UInt8.toNat_ofNat', Nat.mod_eq_of_lt h]
  by_cases h₁ : v ≤ 0x7F
  · rw [if_pos h₁, List.cons_append, List.nil_append, decodeFrom_cons, hbyte (by omega), State.feed,
      State.start, if_pos (by omega), hofNat]
    rfl
  rw [if_neg h₁]
  by_cases h₂ : v ≤ 0x7FF
  · have hbits : v / 64 % 32 * 64 + (v % 64 + 128 - 128) = v := by omega
    rw [if_pos h₂]
    simp only [List.cons_append, List.nil_append, decodeFrom_cons]
    rw [hbyte (by omega), hbyte (by omega), State.feed, start_two (by omega) (by omega),
      feed_last (by omega), hbits, hofNat]
    rfl
  rw [if_neg h₂]
  by_cases h₃ : v ≤ 0xFFFF
  · obtain ⟨low, high, hstart, hrange⟩ := start_three (k := v / 4096 % 16) (by omega)
    have hsecond := hrange (v / 64 % 64 + 128) (by omega) (by omega) (by omega) (by omega)
    have hbits : (v / 4096 % 16 * 64 + (v / 64 % 64 + 128 - 128)) * 64 +
        (v % 64 + 128 - 128) = v := by
      omega
    rw [if_pos h₃]
    simp only [List.cons_append, List.nil_append, decodeFrom_cons]
    rw [hbyte (by omega), hbyte (by omega), hbyte (by omega), State.feed, hstart,
      feed_more (by omega) hsecond, feed_last (by omega), hbits, hofNat]
    rfl
  · obtain ⟨low, high, hstart, hrange⟩ := start_four (k := v / 262144 % 8) (by omega)
    have hsecond := hrange (v / 4096 % 64 + 128) (by omega) (by omega) (by omega) (by omega)
    have hbits : ((v / 262144 % 8 * 64 + (v / 4096 % 64 + 128 - 128)) * 64 +
        (v / 64 % 64 + 128 - 128)) * 64 + (v % 64 + 128 - 128) = v := by
      omega
    rw [if_neg h₃]
    simp only [List.cons_append, List.nil_append, decodeFrom_cons]
    rw [hbyte (by omega), hbyte (by omega), hbyte (by omega), hbyte (by omega), State.feed, hstart,
      feed_more (by omega) hsecond, feed_more (by omega) (by omega), feed_last (by omega), hbits,
      hofNat]
    rfl

/-- The bytes of a text are read as this text. -/
theorem decode_encode (t : Text) : decode (encode t) = t := by
  unfold decode encode
  induction t with
  | nil => rfl
  | cons c t ih => rw [List.flatMap_cons, decodeFrom_utf8EncodeChar, ih]

end Utf8

end Lockstep
