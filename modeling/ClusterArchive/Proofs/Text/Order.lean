import ClusterArchive.Proofs.Text.Encoding
import Mathlib.Data.List.Lex
import Mathlib.Data.String.Basic

/-! # Texts are ordered like their bytes

The spellings of two characters differ at a byte, and there the spelling of the lesser character has
the lesser byte (`apart_spelling`): a longer spelling begins with a greater byte, and spellings of
one length are numbers with digits to the base 64. So texts stand in the order of their UTF-8 bytes
(`bytes_lt_iff`). -/

namespace ClusterArchive.Proofs.Text.Order

open ClusterArchive.Utf8 ClusterArchive.Proofs.Text.Encoding

/-- Whether two byte sequences differ, and the first one has the lesser byte where they first do. -/
inductive Apart : Bytes → Bytes → Prop
  | here {x y : UInt8} (xs ys : Bytes) (h : x < y) : Apart (x :: xs) (y :: ys)
  | later {xs ys : Bytes} (x : UInt8) (h : Apart xs ys) : Apart (x :: xs) (x :: ys)

theorem Apart.append_lt {xs ys : Bytes} (h : Apart xs ys) (rest rest' : Bytes) :
    xs ++ rest < ys ++ rest' := by
  induction h with
  | here xs ys h => exact List.Lex.rel h
  | later x h ih => exact List.Lex.cons ih

/-! ### Spellings of one length -/

/-- Numbers that agree but for their last digits are in the order of these. -/
theorem apart_trailing {n m : Nat} (h : n < m) :
    ∀ k, n / 64 ^ k = m / 64 ^ k → Apart (trailing n k) (trailing m k)
  | 0, hk => by
    simp only [Nat.pow_zero, Nat.div_one] at hk
    omega
  | k + 1, hk => by
    rw [Nat.pow_succ, ← Nat.div_div_eq_div_mul, ← Nat.div_div_eq_div_mul] at hk
    rcases Nat.eq_or_lt_of_le (Nat.div_le_div_right h.le : n / 64 ^ k ≤ m / 64 ^ k) with he | hl
    · rw [trailing, trailing, he]
      exact .later _ (apart_trailing h k he)
    · have hn : n / 64 ^ k % 64 + 0x80 < 256 := by omega
      have hm : m / 64 ^ k % 64 + 0x80 < 256 := by omega
      exact .here _ _ ((UInt8.ofNat_lt_iff_lt hn hm).mpr (by omega))

/-- Numbers with a first digit that is shifted by the same `base`. -/
theorem apart_led {n m base k : Nat} (h : n < m) (hm : m / 64 ^ k + base < 256) :
    Apart (UInt8.ofNat (n / 64 ^ k + base) :: trailing n k)
      (UInt8.ofNat (m / 64 ^ k + base) :: trailing m k) := by
  rcases Nat.eq_or_lt_of_le (Nat.div_le_div_right h.le : n / 64 ^ k ≤ m / 64 ^ k) with he | hl
  · rw [he]
    exact .later _ (apart_trailing h k he)
  · have hb := Nat.add_lt_add_right hl base
    exact .here _ _ ((UInt8.ofNat_lt_iff_lt (hb.trans hm) hm).mpr hb)

/-! ### Spellings of all lengths -/

/-- How many bytes follow the first one in the spelling of a code point. -/
def following (n : Nat) : Nat :=
  if n < 0x80 then 0 else if n < 0x800 then 1 else if n < 0x10000 then 2 else 3

/-- The mark in the first byte of a spelling, by the number of bytes that follow. -/
def mark : Nat → Nat
  | 0 => 0
  | 1 => 0xC0
  | 2 => 0xE0
  | _ => 0xF0

/-- The first byte in the spelling of a code point. -/
def lead (n : Nat) : Nat := n / 64 ^ following n + mark (following n)

theorem spelling_eq {n : Nat} (h : n.isValidChar) :
    spelling n = UInt8.ofNat (lead n) :: trailing n (following n) := by
  have hn : n < 0x110000 := by
    unfold Nat.isValidChar at h
    omega
  unfold lead following
  split_ifs with h₁ h₂ h₃
  · simp [spelling_one h₁, trailing, mark]
  · simp only [Nat.pow_one]
    exact spelling_two (by omega) h₂
  · exact spelling_three h (by omega) h₃
  · exact spelling_four h (by omega) hn

theorem lead_lt {n : Nat} (h : n < 0x110000) : lead n < 256 := by
  unfold lead following
  split_ifs <;> simp only [mark] <;> omega

theorem following_mono {n m : Nat} (h : n < m) : following n ≤ following m := by
  unfold following
  split_ifs <;> omega

/-- A longer spelling begins with a greater byte. -/
theorem lead_lt_lead {n m : Nat} (h : following n < following m) : lead n < lead m := by
  unfold lead
  unfold following at h ⊢
  split_ifs at h ⊢ <;> simp only [mark] <;> omega

theorem apart_spelling {n m : Nat} (hn : n.isValidChar) (hm : m.isValidChar) (h : n < m) :
    Apart (spelling n) (spelling m) := by
  have hl : lead m < 256 := lead_lt (by unfold Nat.isValidChar at hm; omega)
  rw [spelling_eq hn, spelling_eq hm]
  rcases Nat.eq_or_lt_of_le (following_mono h) with he | hf
  · unfold lead at hl ⊢
    rw [he]
    exact apart_led h hl
  · have hb := lead_lt_lead hf
    exact .here _ _ ((UInt8.ofNat_lt_iff_lt (hb.trans hl) hl).mpr hb)

theorem apart_encodeChar {c d : Char} (h : c < d) :
    Apart (String.utf8EncodeChar c) (String.utf8EncodeChar d) := by
  have hs := apart_spelling (n := c.toNat) (m := d.toNat) c.valid d.valid h
  simpa only [spelling, Char.ofNat_toNat] using hs

/-! ### Texts -/

theorem encode_lt {text text' : List Char} (h : text < text') : encode text < encode text' := by
  induction h with
  | nil =>
    rename_i c cs
    obtain ⟨b, bytes, hb⟩ := List.exists_cons_of_ne_nil (String.utf8EncodeChar_ne_nil (c := c))
    rw [encode, encode, List.flatMap_cons, hb]
    exact List.Lex.nil
  | rel h =>
    rw [encode, encode, List.flatMap_cons, List.flatMap_cons]
    exact (apart_encodeChar h).append_lt _ _
  | cons h ih =>
    rw [encode, encode, List.flatMap_cons, List.flatMap_cons]
    exact List.Lex.append_left _ ih _

/-- **Texts stand in the order of their UTF-8 bytes.** -/
theorem bytes_lt_iff {s t : String} : utf8Bytes s < utf8Bytes t ↔ s < t := by
  refine ⟨fun h => ?_, encode_lt⟩
  rcases lt_trichotomy s t with hst | rfl | hts
  · exact hst
  · exact absurd h (List.lt_irrefl _)
  · exact absurd (List.lt_trans h (encode_lt hts)) (List.lt_irrefl _)

end ClusterArchive.Proofs.Text.Order
