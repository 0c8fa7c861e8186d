import ClusterArchive.Proofs.Text.Encoding

/-! # Spelled text is read back

The bytes of a text are read as its characters (`scalars_encode`). The first byte of a spelling
leaves an unfinished sequence that may become the character (`spelling_promises`), every further
byte leaves one that still may, with a byte less missing (`mayBecome_next`), and the last one
completes it. -/

namespace ClusterArchive.Proofs.Text.Spelling

open ClusterArchive.Utf8 ClusterArchive.Proofs.Text.Encoding

variable {n : Nat} {u : Unfinished}

/-! ### Further bytes -/

/-- The byte that goes on with the spelling of a code point when `m` more are missing after it. -/
def further (n m : Nat) : UInt8 := UInt8.ofNat (n / 64 ^ m % 64 + 0x80)

theorem toNat_further (n m : Nat) : (further n m).toNat = n / 64 ^ m % 64 + 0x80 := by
  rw [further, UInt8.toNat_ofNat_of_lt' (show n / 64 ^ m % 64 + 0x80 < 256 by omega)]

theorem further_in_range {m : Nat} (h : MayBecome u n) (hm : u.missing = m + 1) :
    u.low ≤ further n m ∧ further n m ≤ u.high := by
  have hl := h.low
  have hu := h.high
  rw [hm] at hl hu
  rw [UInt8.le_iff_toNat_le, UInt8.le_iff_toNat_le, toNat_further]
  exact ⟨hl, hu⟩

/-- With the next byte, the bits that have been read are those in front of fewer lower ones. -/
theorem code_next {m : Nat} (h : MayBecome u n) (hm : u.missing = m + 1) :
    u.code * 64 + ((further n m).toNat - 0x80) = n / 64 ^ m := by
  have hc := h.code
  rw [hm, Nat.pow_succ, ← Nat.div_div_eq_div_mul] at hc
  rw [toNat_further]
  omega

theorem mayBecome_next (n m : Nat) : MayBecome ⟨n / 64 ^ m, m, 0x80, 0xBF⟩ n := by
  refine ⟨rfl, Nat.le_add_left _ _, ?_⟩
  have hb : n / 64 ^ (m - 1) % 64 < 64 := Nat.mod_lt _ (by decide)
  change _ ≤ 0xBF
  omega

/-- The bytes that are missing complete the character. -/
theorem foldl_trailing {done : List (Option Char)} : ∀ (m : Nat) {u : Unfinished}, MayBecome u n →
    u.missing = m + 1 →
      (trailing n (m + 1)).foldl Progress.push ⟨done, some u⟩ = ⟨some (Char.ofNat n) :: done, none⟩
  | 0, u, h, hm => by
    change Progress.push ⟨done, some u⟩ (further n 0) = _
    simp only [Progress.push, if_pos (further_in_range h hm), code_next h hm, hm]
    simp
  | m + 1, u, h, hm => by
    have hp : Progress.push ⟨done, some u⟩ (further n (m + 1)) =
        ⟨done, some ⟨n / 64 ^ (m + 1), m + 1, 0x80, 0xBF⟩⟩ := by
      simp only [Progress.push, if_pos (further_in_range h hm), code_next h hm, hm]
      simp
    change (trailing n (m + 1)).foldl Progress.push
      (Progress.push ⟨done, some u⟩ (further n (m + 1))) = _
    rw [hp]
    exact foldl_trailing m (mayBecome_next n (m + 1)) rfl

/-! ### The first byte -/

/-- Whether a byte promises the character of a code point, of which `m` bytes are still missing. -/
def Promises (b : UInt8) (n m : Nat) : Prop := ∃ u, lead? b = some u ∧ u.missing = m ∧ MayBecome u n

/-- The bits of a first byte and the range of the second one, where at least one more follows. -/
theorem mayBecome_mk {m : Nat} {low high : UInt8} (hl : low.toNat ≤ n / 64 ^ m % 64 + 0x80)
    (hh : n / 64 ^ m % 64 + 0x80 ≤ high.toNat) : MayBecome ⟨n / 64 ^ (m + 1), m + 1, low, high⟩ n :=
  ⟨rfl, hl, hh⟩

theorem promises_two (hl : 0x80 ≤ n) (hu : n < 0x800) :
    Promises (UInt8.ofNat (n / 64 + 0xC0)) n 1 := by
  refine ⟨_, ?_, rfl, mayBecome_next n 1⟩
  unfold lead?
  simp only [UInt8.le_iff_toNat_le, UInt8.reduceToNat,
    UInt8.toNat_ofNat_of_lt' (show n / 64 + 0xC0 < 256 by omega)]
  rw [if_pos (by omega), Nat.add_sub_cancel, Nat.pow_one]

theorem promises_three (hv : n.isValidChar) (hl : 0x800 ≤ n) (hu : n < 0x10000) :
    Promises (UInt8.ofNat (n / 64 ^ 2 + 0xE0)) n 2 := by
  unfold Nat.isValidChar at hv
  unfold Promises lead?
  simp only [UInt8.le_iff_toNat_le, ← UInt8.toNat_inj, UInt8.reduceToNat,
    UInt8.toNat_ofNat_of_lt' (show n / 64 ^ 2 + 0xE0 < 256 by omega)]
  rw [if_neg (by omega)]
  split_ifs with h₁ h₂ h₃
  · have hc : n / 64 ^ 2 = 0 := by omega
    exact ⟨_, rfl, rfl, hc ▸ mayBecome_mk (by simp; omega) (by simp; omega)⟩
  · have hc : n / 64 ^ 2 = 0xD := by omega
    exact ⟨_, rfl, rfl, hc ▸ mayBecome_mk (by simp) (by simp; omega)⟩
  · rw [Nat.add_sub_cancel]
    exact ⟨_, rfl, rfl, mayBecome_next n 2⟩
  all_goals omega

theorem promises_four (hl : 0x10000 ≤ n) (hu : n < 0x110000) :
    Promises (UInt8.ofNat (n / 64 ^ 3 + 0xF0)) n 3 := by
  unfold Promises lead?
  simp only [UInt8.le_iff_toNat_le, ← UInt8.toNat_inj, UInt8.reduceToNat,
    UInt8.toNat_ofNat_of_lt' (show n / 64 ^ 3 + 0xF0 < 256 by omega)]
  rw [if_neg (by omega), if_neg (by omega), if_neg (by omega), if_neg (by omega)]
  split_ifs with h₁ h₂ h₃
  · have hc : n / 64 ^ 3 = 0 := by omega
    exact ⟨_, rfl, rfl, hc ▸ mayBecome_mk (by simp; omega) (by simp; omega)⟩
  · rw [Nat.add_sub_cancel]
    exact ⟨_, rfl, rfl, mayBecome_next n 3⟩
  · have hc : n / 64 ^ 3 = 4 := by omega
    exact ⟨_, rfl, rfl, hc ▸ mayBecome_mk (by simp) (by simp; omega)⟩
  all_goals omega

/-- The spelling of a character beyond the first 128 begins with a byte that promises it. -/
theorem spelling_promises (hv : n.isValidChar) (hl : 0x80 ≤ n) :
    ∃ b m, spelling n = b :: trailing n (m + 1) ∧ 0x80 ≤ b ∧ Promises b n (m + 1) := by
  have hn : n < 0x110000 := by
    unfold Nat.isValidChar at hv
    omega
  have hb : ∀ x : Nat, 0x80 ≤ x → x < 256 → (0x80 : UInt8) ≤ UInt8.ofNat x := fun x h h' => by
    rw [UInt8.le_iff_toNat_le, UInt8.toNat_ofNat_of_lt' h']
    exact h
  rcases Nat.lt_or_ge n 0x800 with h₁ | h₁
  · exact ⟨_, 0, spelling_two hl h₁, hb _ (by omega) (by omega), promises_two hl h₁⟩
  rcases Nat.lt_or_ge n 0x10000 with h₂ | h₂
  · exact ⟨_, 1, spelling_three hv h₁ h₂, hb _ (by omega) (by omega), promises_three hv h₁ h₂⟩
  · exact ⟨_, 2, spelling_four hv h₂ hn, hb _ (by omega) (by omega), promises_four h₂ hn⟩

/-! ### Texts -/

theorem foldl_spelling (hv : n.isValidChar) (done : List (Option Char)) :
    (spelling n).foldl Progress.push ⟨done, none⟩ = ⟨some (Char.ofNat n) :: done, none⟩ := by
  rcases Nat.lt_or_ge n 0x80 with hl | hl
  · have hb : UInt8.ofNat n < 0x80 := by
      rw [UInt8.lt_iff_toNat_lt, UInt8.toNat_ofNat_of_lt' (show n < 256 by omega)]
      exact hl
    rw [spelling_one hl]
    change Progress.start done (UInt8.ofNat n) = _
    rw [Progress.start, if_pos hb, UInt8.toNat_ofNat_of_lt' (show n < 256 by omega)]
  · obtain ⟨b, m, hs, hb, u, hu, hm, hn⟩ := spelling_promises hv hl
    have hp : Progress.push ⟨done, none⟩ b = ⟨done, some u⟩ := by
      change Progress.start done b = _
      rw [Progress.start, if_neg (UInt8.not_lt.mpr hb), hu]
    rw [hs, List.foldl_cons, hp]
    exact foldl_trailing m hn hm

theorem foldl_encode : ∀ (text : List Char) (done : List (Option Char)),
    (encode text).foldl Progress.push ⟨done, none⟩ = ⟨(text.map some).reverse ++ done, none⟩
  | [], done => rfl
  | c :: text, done => by
    have hc := foldl_spelling (n := c.toNat) c.valid done
    rw [spelling, Char.ofNat_toNat] at hc
    rw [encode, List.flatMap_cons, List.foldl_append, hc]
    exact (foldl_encode text (some c :: done)).trans (by simp)

/-- The bytes of a text are read as its characters. -/
theorem scalars_encode (text : List Char) : scalars (encode text) = text.map some := by
  rw [scalars, foldl_encode, List.append_nil]
  exact List.reverse_reverse _

end ClusterArchive.Proofs.Text.Spelling
