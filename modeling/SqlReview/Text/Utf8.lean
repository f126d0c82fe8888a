import SqlReview.Text.Basic

/-!
# UTF-8

Bytes read as text. A decoder that meets an ill-formed place reports one fault for each maximal
beginning of a character that is cut off there; the lenient reading puts the replacement
character in its place, and the strict reading refuses the whole.
-/

namespace SqlReview
namespace Text

/-- A character of which some bytes are still missing: how many, the bounds of the next one, and
the code point as far as it is known. -/
structure OpenSequence where
  /-- The number of bytes that are still missing. -/
  owed : Nat
  /-- The least byte that may come next. -/
  low : Nat
  /-- The greatest byte that may come next. -/
  high : Nat
  /-- The bits of the code point that have been read. -/
  bits : Nat

/-- What the first byte of a character says: a whole character, an open sequence, or a fault. -/
def leadByte (byte : Nat) : List (Option Char) × Option OpenSequence :=
  if byte < 0x80 then ([some (Char.ofNat byte)], none)
  else if byte < 0xC2 then ([none], none)
  else if byte < 0xE0 then ([], some ⟨1, 0x80, 0xBF, byte - 0xC0⟩)
  else if byte = 0xE0 then ([], some ⟨2, 0xA0, 0xBF, 0⟩)
  else if byte = 0xED then ([], some ⟨2, 0x80, 0x9F, 0xD⟩)
  else if byte < 0xF0 then ([], some ⟨2, 0x80, 0xBF, byte - 0xE0⟩)
  else if byte = 0xF0 then ([], some ⟨3, 0x90, 0xBF, 0⟩)
  else if byte < 0xF4 then ([], some ⟨3, 0x80, 0xBF, byte - 0xF0⟩)
  else if byte = 0xF4 then ([], some ⟨3, 0x80, 0x8F, 4⟩)
  else ([none], none)

/-- One byte read: the characters and faults that it completes, and the sequence left open. -/
def stepByte : Option OpenSequence → Nat → List (Option Char) × Option OpenSequence
  | none, byte => leadByte byte
  | some sequence, byte =>
    if sequence.low ≤ byte && byte ≤ sequence.high then
      let bits := sequence.bits * 64 + (byte - 0x80)
      if sequence.owed = 1 then ([some (Char.ofNat bits)], none)
      else ([], some ⟨sequence.owed - 1, 0x80, 0xBF, bits⟩)
    else
      (none :: (leadByte byte).1, (leadByte byte).2)

/-- The characters of a byte sequence, with `none` for each ill-formed place. -/
def decodeFrom : Option OpenSequence → List UInt8 → List (Option Char)
  | none, [] => []
  | some _, [] => [none]
  | sequence, byte :: rest =>
    (stepByte sequence byte.toNat).1 ++ decodeFrom (stepByte sequence byte.toNat).2 rest

/-- Bytes read as text, with the replacement character at every ill-formed place. -/
def decodeLenient (bytes : List UInt8) : Text :=
  (decodeFrom none bytes).map (·.getD '\uFFFD')

/-- Bytes read as text, if they are well formed. -/
def decode? (bytes : List UInt8) : Option Text :=
  (decodeFrom none bytes).mapM id

end Text
end SqlReview
