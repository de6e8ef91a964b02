import BareUrl.Text.Utf8
import Mathlib.Tactic.Common

/-!
# `BareUrl.Proofs.Text.Utf8`: a text that is encoded can be decoded

The bytes of a character are read as this character, whatever follows them (`next_encode`): the
first byte tells how many bytes follow and within which bounds, and the bounds are kept by every
character of that length. So the pieces of an encoded text are its characters, and both ways of
decoding give the text back.
-/

set_option autoImplicit false

namespace BareUrl.Text.Utf8

/-- A further byte is read if it is within its bounds. -/
theorem tails_cons {n lo hi bits b : Nat} {bytes : List UInt8} (hlo : lo ≤ b) (hhi : b ≤ hi)
    (hb : b < 256) :
    tails (n + 1) lo hi bits (UInt8.ofNat b :: bytes)
      = tails n 0x80 0xBF (bits * 64 + (b - 0x80)) bytes := by
  have hbyte : (UInt8.ofNat b).toNat = b := UInt8.toNat_ofNat_of_lt' hb
  rw [tails, hbyte, if_pos ⟨hlo, hhi⟩]

/-- The first byte of several says which bytes may follow. -/
theorem next_of_lead {b n lo hi bits : Nat} (hb : b < 256) (hlarge : 0x80 ≤ b)
    (h : lead b = some (n, lo, hi, bits)) (bytes : List UInt8) :
    next (UInt8.ofNat b) bytes
      = ((tails n lo hi bits bytes).1.map Char.ofNat, (tails n lo hi bits bytes).2) := by
  have hbyte : (UInt8.ofNat b).toNat = b := UInt8.toNat_ofNat_of_lt' hb
  rw [next, hbyte, if_neg (Nat.not_lt.2 hlarge), h]

variable {v : Nat} (rest : List UInt8)

theorem next_two (hlow : 0x80 ≤ v) (hhigh : v ≤ 0x7FF) :
    next (UInt8.ofNat (v / 64 % 32 + 192)) (UInt8.ofNat (v % 64 + 128) :: rest)
      = (some (Char.ofNat v), rest) := by
  have hlead : lead (v / 64 % 32 + 192) = some (1, 0x80, 0xBF, v / 64) := by
    rw [lead, if_pos (by omega)]
    simp only [Option.some.injEq, Prod.mk.injEq, true_and]
    omega
  have hcode : v / 64 * 64 + (v % 64 + 128 - 0x80) = v := by omega
  rw [next_of_lead (by omega) (by omega) hlead, tails_cons (by omega) (by omega) (by omega), tails,
    hcode]
  rfl

theorem next_three (hlow : 0x800 ≤ v) (hhigh : v ≤ 0xFFFF) (hv : v.isValidChar) :
    next (UInt8.ofNat (v / 4096 % 16 + 224))
        (UInt8.ofNat (v / 64 % 64 + 128) :: UInt8.ofNat (v % 64 + 128) :: rest)
      = (some (Char.ofNat v), rest) := by
  -- The bounds of the second byte keep out short forms and surrogates.
  obtain ⟨lo, hi, hlead, hlo, hhi⟩ : ∃ lo hi,
      lead (v / 4096 % 16 + 224) = some (2, lo, hi, v / 4096) ∧
        lo ≤ v / 64 % 64 + 128 ∧ v / 64 % 64 + 128 ≤ hi := by
    by_cases hfirst : v / 4096 = 0
    · have hb : v / 4096 % 16 + 224 = 0xE0 := by omega
      refine ⟨0xA0, 0xBF, ?_, by omega, by omega⟩
      rw [hb, hfirst]
      rfl
    · by_cases hlast : v / 4096 = 13
      · have hb : v / 4096 % 16 + 224 = 0xED := by omega
        refine ⟨0x80, 0x9F, ?_, by omega, ?_⟩
        · rw [hb, hlast]
          rfl
        · rcases hv with h | ⟨h, -⟩ <;> omega
      · refine ⟨0x80, 0xBF, ?_, by omega, by omega⟩
        rw [lead, if_neg (by omega), if_neg (by omega), if_neg (by omega), if_pos (by omega)]
        simp only [Option.some.injEq, Prod.mk.injEq, true_and]
        omega
  have hcode : (v / 4096 * 64 + (v / 64 % 64 + 128 - 0x80)) * 64 + (v % 64 + 128 - 0x80) = v := by
    omega
  rw [next_of_lead (by omega) (by omega) hlead, tails_cons hlo hhi (by omega),
    tails_cons (by omega) (by omega) (by omega), tails, hcode]
  rfl

theorem next_four (hlow : 0x10000 ≤ v) (hv : v.isValidChar) :
    next (UInt8.ofNat (v / 262144 % 8 + 240)) (UInt8.ofNat (v / 4096 % 64 + 128) ::
        UInt8.ofNat (v / 64 % 64 + 128) :: UInt8.ofNat (v % 64 + 128) :: rest)
      = (some (Char.ofNat v), rest) := by
  have hhigh : v < 0x110000 := by
    rcases hv with h | ⟨-, h⟩
    · omega
    · exact h
  -- The bounds of the second byte keep out short forms and what is no code point.
  obtain ⟨lo, hi, hlead, hlo, hhi⟩ : ∃ lo hi,
      lead (v / 262144 % 8 + 240) = some (3, lo, hi, v / 262144) ∧
        lo ≤ v / 4096 % 64 + 128 ∧ v / 4096 % 64 + 128 ≤ hi := by
    by_cases hfirst : v / 262144 = 0
    · have hb : v / 262144 % 8 + 240 = 0xF0 := by omega
      refine ⟨0x90, 0xBF, ?_, by omega, by omega⟩
      rw [hb, hfirst]
      rfl
    · by_cases hlast : v / 262144 = 4
      · have hb : v / 262144 % 8 + 240 = 0xF4 := by omega
        refine ⟨0x80, 0x8F, ?_, by omega, by omega⟩
        rw [hb, hlast]
        rfl
      · refine ⟨0x80, 0xBF, ?_, by omega, by omega⟩
        rw [lead, if_neg (by omega), if_neg (by omega), if_neg (by omega), if_neg (by omega),
          if_neg (by omega), if_pos (by omega)]
        simp only [Option.some.injEq, Prod.mk.injEq, true_and]
        omega
  have hcode : ((v / 262144 * 64 + (v / 4096 % 64 + 128 - 0x80)) * 64
      + (v / 64 % 64 + 128 - 0x80)) * 64 + (v % 64 + 128 - 0x80) = v := by
    omega
  rw [next_of_lead (by omega) (by omega) hlead, tails_cons hlo hhi (by omega),
    tails_cons (by omega) (by omega) (by omega), tails_cons (by omega) (by omega) (by omega), tails,
    hcode]
  rfl

variable {rest}

/-- The bytes of a character are read as the character. -/
theorem next_encode {c : Char} {b : UInt8} {bs : List UInt8} (h : String.utf8EncodeChar c = b :: bs)
    (rest : List UInt8) : next b (bs ++ rest) = (some c, rest) := by
  have hvalid : c.val.toNat.isValidChar := c.valid
  have hc : Char.ofNat c.val.toNat = c := Char.ofNat_toNat c
  rw [String.utf8EncodeChar] at h
  generalize c.val.toNat = v at h hvalid hc
  subst hc
  -- From one byte to four.
  split at h
  · rename_i h1
    obtain ⟨rfl, rfl⟩ := List.cons.inj h
    have hbyte : (UInt8.ofNat v).toNat = v := UInt8.toNat_ofNat_of_lt' (show v < 256 by omega)
    rw [next, hbyte, if_pos (Nat.lt_succ_of_le h1)]
    rfl
  · split at h
    · rename_i h1 h2
      obtain ⟨rfl, rfl⟩ := List.cons.inj h
      exact next_two rest (Nat.lt_of_not_le h1) h2
    · split at h
      · rename_i h1 h2
        obtain ⟨rfl, rfl⟩ := List.cons.inj h
        exact next_three rest (Nat.lt_of_not_le h1) h2 hvalid
      · rename_i h1
        obtain ⟨rfl, rfl⟩ := List.cons.inj h
        exact next_four rest (Nat.lt_of_not_le h1) hvalid

/-- The pieces of an encoded text are its characters. -/
theorem pieces_encode (t : Text) : pieces (encode t) = t.map some := by
  induction t with
  | nil => rw [encode, List.flatMap_nil, pieces, List.map_nil]
  | cons c t ih =>
      obtain ⟨b, bs, hbytes⟩ := List.exists_cons_of_ne_nil (String.utf8EncodeChar_ne_nil (c := c))
      have hnext := next_encode hbytes (encode t)
      have hencode : encode (c :: t) = b :: (bs ++ encode t) := by
        rw [encode, List.flatMap_cons, hbytes]
        rfl
      rw [hencode, pieces, hnext, ih]
      rfl

theorem decode?_encode (t : Text) : decode? (encode t) = some t := by
  rw [decode?, pieces_encode]
  induction t with
  | nil => rfl
  | cons c t ih =>
      rw [List.map_cons, List.mapM_cons, ih]
      rfl

theorem decodeLossy_encode (t : Text) : decodeLossy (encode t) = t := by
  rw [decodeLossy, pieces_encode, List.map_map]
  exact List.map_id t

end BareUrl.Text.Utf8
