import LetArith.Text.Utf8
import Mathlib.Tactic.Common

namespace LetArith.Text.Utf8

variable {bits n v : Nat} {bytes rest : List UInt8} {intervals : List (UInt8 × UInt8)}

/-- A byte that lies in the first interval adds its six bits. -/
theorem complete_cons {low high : UInt8} (hlow : low.toNat ≤ n + 128)
    (hhigh : n + 128 ≤ high.toNat) :
    complete bits bytes ((low, high) :: intervals) (UInt8.ofNat (n + 128) :: rest) =
      complete (64 * bits + n) (bytes ++ [UInt8.ofNat (n + 128)]) intervals rest := by
  have hn : (UInt8.ofNat (n + 128)).toNat = n + 128 := by
    have hbound := high.toNat_lt
    rw [UInt8.toNat_ofNat', Nat.mod_eq_of_lt (by omega)]
  have hinside : (low ≤ UInt8.ofNat (n + 128) && UInt8.ofNat (n + 128) ≤ high) = true := by
    simp only [UInt8.le_iff_toNat_le, hn, hlow, hhigh, decide_true, Bool.and_self]
  rw [complete, if_pos hinside, hn, Nat.add_sub_cancel]

private theorem complete_cons_of_lt (h : n < 64) :
    complete bits bytes ((0x80, 0xBF) :: intervals) (UInt8.ofNat (n + 128) :: rest) =
      complete (64 * bits + n) (bytes ++ [UInt8.ofNat (n + 128)]) intervals rest := by
  apply complete_cons (Nat.le_add_left _ _)
  change n + 128 ≤ 0xBF
  omega

private theorem complete_nil (h : bits = v) :
    complete bits bytes [] rest = (.character (Char.ofNat v), rest) := by
  rw [complete, h]

private theorem lead?_ofNat (h : n < 256) : lead? (UInt8.ofNat n) =
    if n ≤ 0x7F then some (n, [])
    else if 0xC2 ≤ n ∧ n ≤ 0xDF then some (n - 0xC0, [(0x80, 0xBF)])
    else if n = 0xE0 then some (0, [(0xA0, 0xBF), (0x80, 0xBF)])
    else if n = 0xED then some (0xD, [(0x80, 0x9F), (0x80, 0xBF)])
    else if 0xE1 ≤ n ∧ n ≤ 0xEF then some (n - 0xE0, [(0x80, 0xBF), (0x80, 0xBF)])
    else if n = 0xF0 then some (0, [(0x90, 0xBF), (0x80, 0xBF), (0x80, 0xBF)])
    else if 0xF1 ≤ n ∧ n ≤ 0xF3 then
      some (n - 0xF0, [(0x80, 0xBF), (0x80, 0xBF), (0x80, 0xBF)])
    else if n = 0xF4 then some (4, [(0x80, 0x8F), (0x80, 0xBF), (0x80, 0xBF)])
    else none := by
  have hn : (UInt8.ofNat n).toNat = n := by
    rw [UInt8.toNat_ofNat', Nat.mod_eq_of_lt (by omega)]
  simp only [lead?, UInt8.le_iff_toNat_le, ← UInt8.toNat_inj, hn, Bool.and_eq_true,
    decide_eq_true_eq]
  rfl

private theorem some_bits (h : n = v) : some (n, intervals) = some (v, intervals) := by
  rw [h]

private theorem firstPiece_of_lead? {byte : UInt8} (h : lead? byte = some (bits, intervals)) :
    firstPiece byte rest = complete bits [byte] intervals rest := by
  simp only [firstPiece, h]

private theorem firstPiece_one (v : Nat) (rest : List UInt8) (h : v ≤ 0x7F) :
    firstPiece (UInt8.ofNat v) rest = (.character (Char.ofNat v), rest) := by
  have hlead : lead? (UInt8.ofNat v) = some (v, []) := by
    rw [lead?_ofNat (by omega), if_pos h]
  rw [firstPiece_of_lead? hlead]
  exact complete_nil rfl

private theorem firstPiece_two (v : Nat) (rest : List UInt8) (hlow : 0x7F < v) (hhigh : v ≤ 0x7FF) :
    firstPiece (UInt8.ofNat (v / 64 % 32 + 192)) (UInt8.ofNat (v % 64 + 128) :: rest) =
      (.character (Char.ofNat v), rest) := by
  have hlead : lead? (UInt8.ofNat (v / 64 % 32 + 192)) = some (v / 64, [(0x80, 0xBF)]) := by
    rw [lead?_ofNat (by omega), if_neg (by omega), if_pos (by omega)]
    exact some_bits (by omega)
  rw [firstPiece_of_lead? hlead, complete_cons_of_lt (by omega)]
  apply complete_nil
  omega

/-- The second of three bytes leaves out what two bytes can say, and the surrogates. -/
theorem firstPiece_three (v : Nat) (rest : List UInt8) (hlow : 0x7FF < v)
    (hhigh : v ≤ 0xFFFF) (hvalid : v < 0xD800 ∨ 0xDFFF < v) :
    firstPiece (UInt8.ofNat (v / 4096 % 16 + 224))
        (UInt8.ofNat (v / 64 % 64 + 128) :: UInt8.ofNat (v % 64 + 128) :: rest) =
      (.character (Char.ofNat v), rest) := by
  have hlead : ∃ low high, lead? (UInt8.ofNat (v / 4096 % 16 + 224)) =
        some (v / 4096, [(low, high), (0x80, 0xBF)]) ∧
      low.toNat ≤ v / 64 % 64 + 128 ∧ v / 64 % 64 + 128 ≤ high.toNat := by
    rw [lead?_ofNat (by omega), if_neg (by omega), if_neg (by omega)]
    by_cases hfirst : v / 4096 % 16 + 224 = 0xE0
    · rw [if_pos hfirst]
      refine ⟨0xA0, 0xBF, some_bits (by omega), ?_, ?_⟩
      · change 0xA0 ≤ _
        omega
      · change _ ≤ 0xBF
        omega
    rw [if_neg hfirst]
    by_cases hsurrogates : v / 4096 % 16 + 224 = 0xED
    · rw [if_pos hsurrogates]
      refine ⟨0x80, 0x9F, some_bits (by omega), Nat.le_add_left _ _, ?_⟩
      change _ ≤ 0x9F
      omega
    · rw [if_neg hsurrogates, if_pos (by omega)]
      refine ⟨0x80, 0xBF, some_bits (by omega), Nat.le_add_left _ _, ?_⟩
      change _ ≤ 0xBF
      omega
  obtain ⟨low, high, hlead, hsecond, hsecond'⟩ := hlead
  rw [firstPiece_of_lead? hlead, complete_cons hsecond hsecond', complete_cons_of_lt (by omega)]
  apply complete_nil
  omega

/-- The second of four bytes leaves out what three bytes can say, and what is no character. -/
theorem firstPiece_four (v : Nat) (rest : List UInt8) (hlow : 0xFFFF < v) (hvalid : v < 0x110000) :
    firstPiece (UInt8.ofNat (v / 262144 % 8 + 240))
        (UInt8.ofNat (v / 4096 % 64 + 128) :: UInt8.ofNat (v / 64 % 64 + 128) ::
          UInt8.ofNat (v % 64 + 128) :: rest) =
      (.character (Char.ofNat v), rest) := by
  have hlead : ∃ low high, lead? (UInt8.ofNat (v / 262144 % 8 + 240)) =
        some (v / 262144, [(low, high), (0x80, 0xBF), (0x80, 0xBF)]) ∧
      low.toNat ≤ v / 4096 % 64 + 128 ∧ v / 4096 % 64 + 128 ≤ high.toNat := by
    rw [lead?_ofNat (by omega), if_neg (by omega), if_neg (by omega), if_neg (by omega),
      if_neg (by omega), if_neg (by omega)]
    by_cases hfirst : v / 262144 % 8 + 240 = 0xF0
    · rw [if_pos hfirst]
      refine ⟨0x90, 0xBF, some_bits (by omega), ?_, ?_⟩
      · change 0x90 ≤ _
        omega
      · change _ ≤ 0xBF
        omega
    rw [if_neg hfirst]
    by_cases hlast : v / 262144 % 8 + 240 ≤ 0xF3
    · rw [if_pos (by omega)]
      refine ⟨0x80, 0xBF, some_bits (by omega), Nat.le_add_left _ _, ?_⟩
      change _ ≤ 0xBF
      omega
    · rw [if_neg (by omega), if_pos (by omega)]
      refine ⟨0x80, 0x8F, some_bits (by omega), Nat.le_add_left _ _, ?_⟩
      change _ ≤ 0x8F
      omega
  obtain ⟨low, high, hlead, hsecond, hsecond'⟩ := hlead
  rw [firstPiece_of_lead? hlead, complete_cons hsecond hsecond', complete_cons_of_lt (by omega),
    complete_cons_of_lt (by omega)]
  apply complete_nil
  omega

/-- The bytes of a character make up one piece, whatever comes behind them. -/
theorem exists_firstPiece (c : Char) (rest : List UInt8) :
    ∃ byte bytes, String.utf8EncodeChar c = byte :: bytes ∧
      firstPiece byte (bytes ++ rest) = (.character c, rest) := by
  have hvalid : c.val.toNat < 0xD800 ∨ 0xDFFF < c.val.toNat ∧ c.val.toNat < 0x110000 := c.valid
  have hc : Char.ofNat c.val.toNat = c := Char.ofNat_toNat c
  by_cases hone : c.val.toNat ≤ 0x7F
  · have hpiece := firstPiece_one c.val.toNat rest hone
    rw [hc] at hpiece
    exact ⟨_, _, if_pos hone, hpiece⟩
  by_cases htwo : c.val.toNat ≤ 0x7FF
  · have hpiece := firstPiece_two c.val.toNat rest (by omega) htwo
    rw [hc] at hpiece
    exact ⟨_, _, (if_neg hone).trans (if_pos htwo), hpiece⟩
  by_cases hthree : c.val.toNat ≤ 0xFFFF
  · have hpiece := firstPiece_three c.val.toNat rest (by omega) hthree (by omega)
    rw [hc] at hpiece
    exact ⟨_, _, (if_neg hone).trans ((if_neg htwo).trans (if_pos hthree)), hpiece⟩
  · have hpiece := firstPiece_four c.val.toNat rest (by omega) (by omega)
    rw [hc] at hpiece
    exact ⟨_, _, (if_neg hone).trans ((if_neg htwo).trans (if_neg hthree)), hpiece⟩

theorem pieces_encode (text : List Char) : pieces (encode text) = text.map .character := by
  induction text with
  | nil => rw [encode, List.flatMap_nil, pieces, List.map_nil]
  | cons c text ih =>
    obtain ⟨byte, bytes, hencode, hpiece⟩ := exists_firstPiece c (encode text)
    have hcons : encode (c :: text) = byte :: (bytes ++ encode text) := by
      rw [encode, List.flatMap_cons, hencode]
      rfl
    rw [hcons, pieces, hpiece, List.map_cons, ih]

theorem textOf_map_character (position : Nat) (text : List Char) :
    textOf position (text.map .character) = .ok text := by
  induction text generalizing position with
  | nil => rfl
  | cons c text ih => rw [List.map_cons, textOf, ih]

/-- Text that is written in UTF-8 reads back. -/
theorem decode_encode (text : List Char) : decode (encode text) = .ok text := by
  rw [decode, pieces_encode, textOf_map_character]

end LetArith.Text.Utf8
