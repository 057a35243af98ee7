import PlanetScript.Text.Basic

/-! # UTF-8

`encode` writes a text as bytes.  Decoding cuts a sequence of bytes into pieces: a
piece is one character, or an ill-formed start that the next byte rules out.  An
ill-formed piece is the longest beginning of some character's bytes, so a decoder
that replaces each such piece by U+FFFD writes one replacement per maximal
ill-formed part.

* `decode?` refuses a sequence with an ill-formed piece;
* `decodeLossy` replaces each ill-formed piece.
-/
namespace PlanetScript

/-- A sequence of bytes. -/
abbrev Bytes := List UInt8

namespace Text

/-! ### Writing -/

/-- The bytes of one character. -/
def encodeChar (c : Char) : Bytes :=
  let n := c.toNat
  if n < 0x80 then [UInt8.ofNat n]
  else if n < 0x800 then [UInt8.ofNat (0xC0 + n / 64), UInt8.ofNat (0x80 + n % 64)]
  else if n < 0x10000 then
    [UInt8.ofNat (0xE0 + n / 4096), UInt8.ofNat (0x80 + n / 64 % 64), UInt8.ofNat (0x80 + n % 64)]
  else
    [UInt8.ofNat (0xF0 + n / 262144), UInt8.ofNat (0x80 + n / 4096 % 64),
      UInt8.ofNat (0x80 + n / 64 % 64), UInt8.ofNat (0x80 + n % 64)]

/-- The bytes of a text. -/
def encode (t : Text) : Bytes := t.flatMap encodeChar

@[simp] theorem encode_nil : encode [] = [] := rfl

@[simp] theorem encode_cons (c : Char) (t : Text) : encode (c :: t) = encodeChar c ++ encode t :=
  rfl

/-- How many bytes a text takes. -/
def byteCount (t : Text) : Nat := (encode t).length

/-! ### Reading -/

/-- What the first byte of a character says: the bits that it holds itself, how many
bytes follow, and the range of the first of those.  All later ones lie between 0x80
and 0xBF. -/
structure Lead where
  bits : Nat
  more : Nat
  low : Nat := 0x80
  high : Nat := 0xBF

/-- The first byte of a character.  The ranges leave out the longer forms of shorter
characters, the surrogates, and what lies above U+10FFFF. -/
def lead? (b : UInt8) : Option Lead :=
  let n := b.toNat
  if n < 0x80 then some ⟨n, 0, 0x80, 0xBF⟩
  else if n < 0xC2 then none
  else if n < 0xE0 then some ⟨n - 0xC0, 1, 0x80, 0xBF⟩
  else if n = 0xE0 then some ⟨0, 2, 0xA0, 0xBF⟩
  else if n = 0xED then some ⟨0xD, 2, 0x80, 0x9F⟩
  else if n < 0xF0 then some ⟨n - 0xE0, 2, 0x80, 0xBF⟩
  else if n = 0xF0 then some ⟨0, 3, 0x90, 0xBF⟩
  else if n < 0xF4 then some ⟨n - 0xF0, 3, 0x80, 0xBF⟩
  else if n = 0xF4 then some ⟨4, 3, 0x80, 0x8F⟩
  else none

/-- Reads `more` continuation bytes, the first of them between `low` and `high`, into
the bits read so far.  It stops in front of the first byte that does not fit. -/
def continuation (low high : Nat) : Nat → Nat → Bytes → Option Nat × Bytes
  | 0, bits, bytes => (some bits, bytes)
  | _ + 1, _, [] => (none, [])
  | more + 1, bits, b :: bytes =>
    if low ≤ b.toNat && b.toNat ≤ high then
      continuation 0x80 0xBF more (bits * 64 + (b.toNat - 0x80)) bytes
    else (none, b :: bytes)

theorem continuation_length_le (low high more bits : Nat) (bytes : Bytes) :
    (continuation low high more bits bytes).2.length ≤ bytes.length := by
  fun_induction continuation low high more bits bytes with
  | case1 => exact Nat.le_refl _
  | case2 => exact Nat.le_refl _
  | case3 low high bits more b bytes h ih => exact Nat.le_succ_of_le ih
  | case4 => exact Nat.le_refl _

/-- The first piece of a non-empty sequence, none for an ill-formed one, and the
bytes after it. -/
def firstPiece (b : UInt8) (bytes : Bytes) : Option Char × Bytes :=
  match lead? b with
  | none => (none, bytes)
  | some lead =>
    let (bits, rest) := continuation lead.low lead.high lead.more lead.bits bytes
    (bits.map Char.ofNat, rest)

theorem firstPiece_length_le (b : UInt8) (bytes : Bytes) :
    (firstPiece b bytes).2.length ≤ bytes.length := by
  unfold firstPiece
  split
  · exact Nat.le_refl _
  · exact continuation_length_le ..

/-- The pieces of a sequence of bytes. -/
def pieces : Bytes → List (Option Char)
  | [] => []
  | b :: bytes => (firstPiece b bytes).1 :: pieces (firstPiece b bytes).2
termination_by bytes => bytes.length
decreasing_by exact Nat.lt_succ_of_le (firstPiece_length_le b bytes)

/-- The text of a well-formed sequence. -/
def decode? (bytes : Bytes) : Option Text := (pieces bytes).mapM id

/-- The text of a sequence, with U+FFFD for each ill-formed piece. -/
def decodeLossy (bytes : Bytes) : Text := (pieces bytes).map (·.getD '\uFFFD')

end Text
end PlanetScript
