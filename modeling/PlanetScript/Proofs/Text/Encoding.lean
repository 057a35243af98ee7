import Mathlib.Tactic.SplitIfs
import PlanetScript.Text.Utf8

/-! # The bytes of a text

Decoding accepts what encoding writes and nothing else: a sequence of bytes is decoded to a text
if and only if it is the UTF-8 of the text (`Text.decode?_eq_some_iff`).  The ranges that follow
the first byte of a character leave out the longer forms of shorter characters, the surrogates
and what lies above U+10FFFF, so every character has one sequence of bytes.

The proof follows the pieces.  A piece that is a character takes exactly the character's bytes
(`Text.firstPiece_eq_some_iff`).
-/
namespace PlanetScript.Text
variable {b : UInt8} {bytes rest : Bytes} {c : Char}

/-! ### Continuation bytes -/

theorem continuation_zero_eq_some_iff {low high bits n : Nat} :
    continuation low high 0 bits bytes = (some n, rest) ↔ bits = n ∧ bytes = rest := by
  simp [continuation]

theorem continuation_succ_eq_some_iff {low high more bits n : Nat} :
    continuation low high (more + 1) bits bytes = (some n, rest) ↔
      ∃ b tail, bytes = b :: tail ∧ (low ≤ b.toNat ∧ b.toNat ≤ high) ∧
        continuation 0x80 0xBF more (bits * 64 + (b.toNat - 0x80)) tail = (some n, rest) := by
  cases bytes with
  | nil => simp [continuation]
  | cons first tail =>
    rw [continuation]
    by_cases h : low ≤ first.toNat ∧ first.toNat ≤ high
    · rw [if_pos (by simpa using h)]
      constructor
      · intro hrest
        exact ⟨first, tail, rfl, h, hrest⟩
      · rintro ⟨b, tail', heq, -, hrest⟩
        cases heq
        exact hrest
    · rw [if_neg (by simpa using h)]
      constructor
      · intro hrest
        cases hrest
      · rintro ⟨b, tail', heq, hb, -⟩
        cases heq
        exact absurd hb h

/-! ### The bytes of one character -/

theorem toNat_ofNat_of_isValidChar {n : Nat} (h : n.isValidChar) : (Char.ofNat n).toNat = n := by
  rw [Char.ofNat, dif_pos h]
  rfl

/-- What may follow the first byte of a character of three bytes: not the rest of a shorter
character, and not the rest of a surrogate. -/
def FollowsThree (bits : Nat) (y : UInt8) : Prop :=
  (0x80 ≤ y.toNat ∧ y.toNat ≤ 0xBF) ∧ (bits = 0 → 0xA0 ≤ y.toNat) ∧ (bits = 0xD → y.toNat ≤ 0x9F)

/-- What may follow the first byte of a character of four bytes: not the rest of a shorter
character, and nothing above U+10FFFF. -/
def FollowsFour (bits : Nat) (y : UInt8) : Prop :=
  (0x80 ≤ y.toNat ∧ y.toNat ≤ 0xBF) ∧ (bits = 0 → 0x90 ≤ y.toNat) ∧ (bits = 4 → y.toNat ≤ 0x8F)

section Bytes
variable {x y z w : UInt8} {bits : Nat}

theorem encodeChar_ofNat_one (hx : x.toNat < 0x80) : encodeChar (Char.ofNat x.toNat) = [x] := by
  have hvalid : x.toNat.isValidChar := Or.inl (by omega)
  rw [encodeChar, toNat_ofNat_of_isValidChar hvalid]
  simp only [if_pos hx, UInt8.ofNat_toNat]

theorem encodeChar_ofNat_two (hx : x.toNat = 0xC0 + bits) (hbits : 2 ≤ bits ∧ bits < 0x20)
    (hy : 0x80 ≤ y.toNat ∧ y.toNat ≤ 0xBF) :
    encodeChar (Char.ofNat (bits * 64 + (y.toNat - 0x80))) = [x, y] := by
  have hvalid : (bits * 64 + (y.toNat - 0x80)).isValidChar := Or.inl (by omega)
  rw [encodeChar, toNat_ofNat_of_isValidChar hvalid]
  rw [if_neg (by omega), if_pos (by omega)]
  simp only [List.cons.injEq, ← UInt8.toNat_inj, UInt8.toNat_ofNat', and_true]
  omega

theorem encodeChar_ofNat_three (hx : x.toNat = 0xE0 + bits) (hbits : bits < 0x10)
    (hy : FollowsThree bits y) (hz : 0x80 ≤ z.toNat ∧ z.toNat ≤ 0xBF) :
    encodeChar (Char.ofNat ((bits * 64 + (y.toNat - 0x80)) * 64 + (z.toNat - 0x80))) =
      [x, y, z] := by
  obtain ⟨hrange, hlong, hsurrogate⟩ := hy
  have hvalid : ((bits * 64 + (y.toNat - 0x80)) * 64 + (z.toNat - 0x80)).isValidChar := by
    unfold Nat.isValidChar
    omega
  rw [encodeChar, toNat_ofNat_of_isValidChar hvalid]
  rw [if_neg (by omega), if_neg (by omega), if_pos (by omega)]
  simp only [List.cons.injEq, ← UInt8.toNat_inj, UInt8.toNat_ofNat', and_true]
  omega

theorem encodeChar_ofNat_four (hx : x.toNat = 0xF0 + bits) (hbits : bits ≤ 4)
    (hy : FollowsFour bits y) (hz : 0x80 ≤ z.toNat ∧ z.toNat ≤ 0xBF)
    (hw : 0x80 ≤ w.toNat ∧ w.toNat ≤ 0xBF) :
    encodeChar (Char.ofNat (((bits * 64 + (y.toNat - 0x80)) * 64 + (z.toNat - 0x80)) * 64 +
      (w.toNat - 0x80))) = [x, y, z, w] := by
  obtain ⟨hrange, hlong, hhigh⟩ := hy
  have hvalid : (((bits * 64 + (y.toNat - 0x80)) * 64 + (z.toNat - 0x80)) * 64 +
      (w.toNat - 0x80)).isValidChar := by
    unfold Nat.isValidChar
    omega
  rw [encodeChar, toNat_ofNat_of_isValidChar hvalid]
  rw [if_neg (by omega), if_neg (by omega), if_neg (by omega)]
  simp only [List.cons.injEq, ← UInt8.toNat_inj, UInt8.toNat_ofNat', and_true]
  omega

/-! ### First bytes -/

theorem lead?_one (hx : x.toNat < 0x80) : lead? x = some ⟨x.toNat, 0, 0x80, 0xBF⟩ := by
  unfold lead?
  simp only [if_pos hx]

theorem lead?_two (hx : x.toNat = 0xC0 + bits) (hbits : 2 ≤ bits ∧ bits < 0x20) :
    lead? x = some ⟨bits, 1, 0x80, 0xBF⟩ := by
  unfold lead?
  simp only [hx]
  rw [if_neg (by omega), if_neg (by omega), if_pos (by omega), Nat.add_sub_cancel_left]

theorem lead?_three (hx : x.toNat = 0xE0 + bits) (hbits : bits < 0x10) :
    ∃ low high, lead? x = some ⟨bits, 2, low, high⟩ ∧
      ∀ y : UInt8, low ≤ y.toNat ∧ y.toNat ≤ high ↔ FollowsThree bits y := by
  unfold lead? FollowsThree
  simp only [hx]
  rw [if_neg (by omega), if_neg (by omega), if_neg (by omega)]
  by_cases hshort : bits = 0
  · rw [if_pos (by omega)]
    exact ⟨0xA0, 0xBF, by rw [hshort], fun y => by omega⟩
  · by_cases hsurrogate : bits = 0xD
    · rw [if_neg (by omega), if_pos (by omega)]
      exact ⟨0x80, 0x9F, by rw [hsurrogate], fun y => by omega⟩
    · rw [if_neg (by omega), if_neg (by omega), if_pos (by omega), Nat.add_sub_cancel_left]
      exact ⟨0x80, 0xBF, rfl, fun y => by omega⟩

theorem lead?_four (hx : x.toNat = 0xF0 + bits) (hbits : bits ≤ 4) :
    ∃ low high, lead? x = some ⟨bits, 3, low, high⟩ ∧
      ∀ y : UInt8, low ≤ y.toNat ∧ y.toNat ≤ high ↔ FollowsFour bits y := by
  unfold lead? FollowsFour
  simp only [hx]
  rw [if_neg (by omega), if_neg (by omega), if_neg (by omega), if_neg (by omega),
    if_neg (by omega), if_neg (by omega)]
  by_cases hshort : bits = 0
  · rw [if_pos (by omega)]
    exact ⟨0x90, 0xBF, by rw [hshort], fun y => by omega⟩
  · by_cases hhigh : bits = 4
    · rw [if_neg (by omega), if_neg (by omega), if_pos (by omega)]
      exact ⟨0x80, 0x8F, by rw [hhigh], fun y => by omega⟩
    · rw [if_neg (by omega), if_pos (by omega), Nat.add_sub_cancel_left]
      exact ⟨0x80, 0xBF, rfl, fun y => by omega⟩

/-- A byte starts a character of one to four bytes, or none. -/
theorem lead?_cases (x : UInt8) :
    x.toNat < 0x80 ∨ (∃ bits, x.toNat = 0xC0 + bits ∧ 2 ≤ bits ∧ bits < 0x20) ∨
      (∃ bits, x.toNat = 0xE0 + bits ∧ bits < 0x10) ∨
      (∃ bits, x.toNat = 0xF0 + bits ∧ bits ≤ 4) ∨ lead? x = none := by
  by_cases htwo : x.toNat < 0xC2
  · by_cases hone : x.toNat < 0x80
    · exact Or.inl hone
    · unfold lead?
      simp only [if_neg hone, if_pos htwo, or_true]
  · by_cases hfive : x.toNat ≤ 0xF4
    · by_cases hthree : x.toNat < 0xE0
      · exact Or.inr (Or.inl ⟨x.toNat - 0xC0, by omega⟩)
      · by_cases hfour : x.toNat < 0xF0
        · exact Or.inr (Or.inr (Or.inl ⟨x.toNat - 0xE0, by omega⟩))
        · exact Or.inr (Or.inr (Or.inr (Or.inl ⟨x.toNat - 0xF0, by omega⟩)))
    · unfold lead?
      simp only
      repeat rw [if_neg (by omega)]
      simp only [or_true]

end Bytes

/-! ### Pieces -/

theorem firstPiece_of_lead {lead : Lead} (hlead : lead? b = some lead) :
    firstPiece b bytes = (some c, rest) ↔ ∃ n,
      continuation lead.low lead.high lead.more lead.bits bytes = (some n, rest) ∧
        Char.ofNat n = c := by
  unfold firstPiece
  rw [hlead]
  simp only
  obtain ⟨bits, left⟩ := continuation lead.low lead.high lead.more lead.bits bytes
  cases bits with
  | none => simp
  | some bits =>
    simp only [Option.map_some, Prod.mk.injEq, Option.some.injEq]
    constructor
    · rintro ⟨hchar, hleft⟩
      exact ⟨bits, ⟨rfl, hleft⟩, hchar⟩
    · rintro ⟨n, ⟨rfl, hleft⟩, hchar⟩
      exact ⟨hchar, hleft⟩

/-- A piece that is a character has taken the bytes of the character. -/
theorem eq_encodeChar_of_firstPiece (h : firstPiece b bytes = (some c, rest)) :
    b :: bytes = encodeChar c ++ rest := by
  rcases lead?_cases b with hb | ⟨bits, hb, hbits⟩ | ⟨bits, hb, hbits⟩ | ⟨bits, hb, hbits⟩ | hnone
  · obtain ⟨n, hread, rfl⟩ := (firstPiece_of_lead (lead?_one hb)).mp h
    obtain ⟨rfl, rfl⟩ := continuation_zero_eq_some_iff.mp hread
    rw [encodeChar_ofNat_one hb]
    rfl
  · obtain ⟨n, hread, rfl⟩ := (firstPiece_of_lead (lead?_two hb hbits)).mp h
    simp only [continuation_succ_eq_some_iff, continuation_zero_eq_some_iff] at hread
    obtain ⟨y, tail, rfl, hy, rfl, rfl⟩ := hread
    rw [encodeChar_ofNat_two hb hbits hy]
    rfl
  · obtain ⟨low, high, hlead, hfollows⟩ := lead?_three hb hbits
    obtain ⟨n, hread, rfl⟩ := (firstPiece_of_lead hlead).mp h
    simp only [continuation_succ_eq_some_iff, continuation_zero_eq_some_iff, hfollows] at hread
    obtain ⟨y, tail, rfl, hy, z, tail', rfl, hz, rfl, rfl⟩ := hread
    rw [encodeChar_ofNat_three hb hbits hy hz]
    rfl
  · obtain ⟨low, high, hlead, hfollows⟩ := lead?_four hb hbits
    obtain ⟨n, hread, rfl⟩ := (firstPiece_of_lead hlead).mp h
    simp only [continuation_succ_eq_some_iff, continuation_zero_eq_some_iff, hfollows] at hread
    obtain ⟨y, tail, rfl, hy, z, tail', rfl, hz, w, tail'', rfl, hw, rfl, rfl⟩ := hread
    rw [encodeChar_ofNat_four hb hbits hy hz hw]
    rfl
  · rw [firstPiece, hnone] at h
    cases h

theorem toNat_ofNat_of_lt {n : Nat} (h : n < 256) : (UInt8.ofNat n).toNat = n := by
  rw [UInt8.toNat_ofNat', Nat.mod_eq_of_lt h]

/-- The byte that holds six bits of a character behind its first byte. -/
theorem toNat_ofNat_tail (n : Nat) : (UInt8.ofNat (0x80 + n % 64)).toNat = 0x80 + n % 64 :=
  toNat_ofNat_of_lt (by omega)

/-- The bytes of a character are read as one piece, whatever follows them. -/
theorem firstPiece_encodeChar (c : Char) :
    ∃ b tail, encodeChar c = b :: tail ∧ ∀ rest, firstPiece b (tail ++ rest) = (some c, rest) := by
  have hvalid : c.toNat.isValidChar := c.valid
  unfold Nat.isValidChar at hvalid
  unfold encodeChar
  simp only
  split_ifs with hone htwo hthree
  · refine ⟨_, _, rfl, fun rest => ?_⟩
    have hx := toNat_ofNat_of_lt (n := c.toNat) (by omega)
    rw [firstPiece_of_lead (lead?_one (by omega)), hx]
    exact ⟨_, continuation_zero_eq_some_iff.mpr ⟨rfl, rfl⟩, Char.ofNat_toNat c⟩
  · refine ⟨_, _, rfl, fun rest => ?_⟩
    have hx := toNat_ofNat_of_lt (n := 0xC0 + c.toNat / 64) (by omega)
    rw [firstPiece_of_lead (lead?_two hx (by omega))]
    simp only [continuation_succ_eq_some_iff, continuation_zero_eq_some_iff]
    refine ⟨c.toNat, ⟨_, _, rfl, ?_, ?_, rfl⟩, Char.ofNat_toNat c⟩ <;>
      simp only [toNat_ofNat_tail] <;> omega
  · refine ⟨_, _, rfl, fun rest => ?_⟩
    have hx := toNat_ofNat_of_lt (n := 0xE0 + c.toNat / 4096) (by omega)
    obtain ⟨low, high, hlead, hfollows⟩ := lead?_three hx (by omega)
    rw [firstPiece_of_lead hlead]
    simp only [continuation_succ_eq_some_iff, continuation_zero_eq_some_iff, hfollows]
    refine ⟨c.toNat, ⟨_, _, rfl, ?_, _, _, rfl, ?_, ?_, rfl⟩, Char.ofNat_toNat c⟩ <;>
      simp only [FollowsThree, toNat_ofNat_tail] <;> omega
  · refine ⟨_, _, rfl, fun rest => ?_⟩
    have hx := toNat_ofNat_of_lt (n := 0xF0 + c.toNat / 262144) (by omega)
    obtain ⟨low, high, hlead, hfollows⟩ := lead?_four hx (by omega)
    rw [firstPiece_of_lead hlead]
    simp only [continuation_succ_eq_some_iff, continuation_zero_eq_some_iff, hfollows]
    refine ⟨c.toNat, ⟨_, _, rfl, ?_, _, _, rfl, ?_, _, _, rfl, ?_, ?_, rfl⟩,
      Char.ofNat_toNat c⟩ <;>
      simp only [FollowsFour, toNat_ofNat_tail] <;> omega

/-! ### Texts -/

theorem pieces_encode (t : Text) : pieces (encode t) = t.map some := by
  induction t with
  | nil => simp [pieces]
  | cons c t ih =>
    obtain ⟨b, tail, hbytes, hpiece⟩ := firstPiece_encodeChar c
    rw [encode_cons, hbytes, List.cons_append, pieces, hpiece, ih, List.map_cons]

theorem eq_encode_of_pieces (t : Text) (h : pieces bytes = t.map some) : bytes = encode t := by
  induction t generalizing bytes with
  | nil =>
    cases bytes with
    | nil => rfl
    | cons b bytes =>
      rw [pieces] at h
      cases h
  | cons c t ih =>
    cases bytes with
    | nil =>
      rw [pieces] at h
      cases h
    | cons b bytes =>
      rw [pieces, List.map_cons, List.cons.injEq] at h
      rw [encode_cons, ← ih h.2]
      exact eq_encodeChar_of_firstPiece (Prod.ext h.1 rfl)

/-- Pieces make a text if each of them is a character. -/
theorem mapM_id_eq_some_iff {pieces : List (Option Char)} {t : Text} :
    pieces.mapM id = some t ↔ pieces = t.map some := by
  induction pieces generalizing t with
  | nil =>
    rw [List.mapM_nil]
    cases t with
    | nil => exact iff_of_true rfl rfl
    | cons c t => exact iff_of_false nofun nofun
  | cons piece pieces ih =>
    rw [List.mapM_cons, id, Option.bind_eq_bind, Option.bind_eq_some_iff]
    constructor
    · rintro ⟨c, rfl, h⟩
      obtain ⟨rest, hrest, ht⟩ := Option.bind_eq_some_iff.mp h
      cases ht
      rw [List.map_cons, ih.mp hrest]
    · intro h
      cases t with
      | nil => cases h
      | cons c t =>
        rw [List.map_cons, List.cons.injEq] at h
        exact ⟨c, h.1, Option.bind_eq_some_iff.mpr ⟨t, ih.mpr h.2, rfl⟩⟩

/-- **A sequence of bytes is decoded to a text if and only if it is the UTF-8 of the text.** -/
theorem decode?_eq_some_iff {t : Text} : decode? bytes = some t ↔ bytes = encode t := by
  rw [decode?, mapM_id_eq_some_iff]
  constructor
  · exact eq_encode_of_pieces t
  · rintro rfl
    exact pieces_encode t

/-- The bytes of a text are decoded to it when nothing has to be replaced. -/
theorem decodeLossy_encode (t : Text) : decodeLossy (encode t) = t := by
  rw [decodeLossy, pieces_encode, List.map_map]
  exact List.map_id t

/-- Nothing is lost without a replacement, so only nothing is decoded to nothing. -/
theorem decodeLossy_eq_nil_iff : decodeLossy bytes = [] ↔ bytes = [] := by
  rw [decodeLossy, List.map_eq_nil_iff]
  cases bytes with
  | nil => exact iff_of_true (by rw [pieces]) rfl
  | cons b bytes =>
    rw [pieces]
    exact iff_of_false (List.cons_ne_nil _ _) (List.cons_ne_nil _ _)

/-- The bytes of a text are those that the standard library gives it. -/
theorem encode_eq_flatMap (t : Text) : encode t = t.flatMap String.utf8EncodeChar := by
  unfold encode
  congr 1
  funext c
  have hvalid : c.toNat.isValidChar := c.valid
  have hval : c.val.toNat = c.toNat := rfl
  unfold Nat.isValidChar at hvalid
  unfold encodeChar String.utf8EncodeChar
  simp only [hval]
  split_ifs <;> try omega
  · rfl
  · rw [Nat.mod_eq_of_lt (show c.toNat / 64 < 32 by omega), Nat.add_comm _ 192, Nat.add_comm _ 128]
  · rw [Nat.mod_eq_of_lt (show c.toNat / 4096 < 16 by omega), Nat.add_comm _ 224]
    simp only [Nat.add_comm _ 128]
  · rw [Nat.mod_eq_of_lt (show c.toNat / 262144 < 8 by omega), Nat.add_comm _ 240]
    simp only [Nat.add_comm _ 128]

end PlanetScript.Text
