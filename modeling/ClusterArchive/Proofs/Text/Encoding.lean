import ClusterArchive.Text.Utf8
import Mathlib.Algebra.Group.Nat.Defs
import Mathlib.Data.List.Induction

/-! # Well-formed bytes spell their text

Bytes that are read without an ill-formed piece are the UTF-8 bytes of the text that is read
(`encode_of_scalars`), so nothing is lost where they are read lossily (`encode_lossy`).

The reader keeps one unfinished sequence. The bytes of it that have been read are those with which
every character begins that the sequence can still become (`Begins`): its code point has the bits
read so far in front, and what is missing are its lower bits, six to a byte (`trailing`). A byte
that goes on with the sequence keeps this (`begins_push`) or completes the character
(`spelling_of_begins`). -/

namespace ClusterArchive.Proofs.Text.Encoding

open ClusterArchive.Utf8

/-! ### Code points -/

/-- The UTF-8 bytes of a code point. -/
def spelling (n : Nat) : Bytes := String.utf8EncodeChar (Char.ofNat n)

/-- The last bytes in the spelling of a code point, six bits to a byte. -/
def trailing (n : Nat) : Nat → Bytes
  | 0 => []
  | m + 1 => UInt8.ofNat (n / 64 ^ m % 64 + 0x80) :: trailing n m

theorem val_ofNat {n : Nat} (h : n.isValidChar) : (Char.ofNat n).val.toNat = n := by
  rw [Char.ofNat, dif_pos h]
  exact UInt32.toNat_ofNatLT

theorem spelling_one {n : Nat} (h : n < 0x80) : spelling n = [UInt8.ofNat n] := by
  have hv : n.isValidChar := Or.inl (by omega)
  simp only [spelling, String.utf8EncodeChar, val_ofNat hv]
  rw [if_pos (by omega)]

theorem spelling_two {n : Nat} (hl : 0x80 ≤ n) (hu : n < 0x800) :
    spelling n = UInt8.ofNat (n / 64 + 0xC0) :: trailing n 1 := by
  have hv : n.isValidChar := Or.inl (by omega)
  have hm : n / 64 % 32 = n / 64 := Nat.mod_eq_of_lt (by omega)
  simp only [spelling, String.utf8EncodeChar, val_ofNat hv, trailing]
  rw [if_neg (by omega), if_pos (by omega), hm]
  simp

theorem spelling_three {n : Nat} (hv : n.isValidChar) (hl : 0x800 ≤ n) (hu : n < 0x10000) :
    spelling n = UInt8.ofNat (n / 64 ^ 2 + 0xE0) :: trailing n 2 := by
  have hm : n / 4096 % 16 = n / 64 ^ 2 := Nat.mod_eq_of_lt (by omega)
  simp only [spelling, String.utf8EncodeChar, val_ofNat hv, trailing]
  rw [if_neg (by omega), if_neg (by omega), if_pos (by omega), hm]
  simp

theorem spelling_four {n : Nat} (hv : n.isValidChar) (hl : 0x10000 ≤ n) (hu : n < 0x110000) :
    spelling n = UInt8.ofNat (n / 64 ^ 3 + 0xF0) :: trailing n 3 := by
  have hm : n / 262144 % 8 = n / 64 ^ 3 := Nat.mod_eq_of_lt (by omega)
  simp only [spelling, String.utf8EncodeChar, val_ofNat hv, trailing]
  rw [if_neg (by omega), if_neg (by omega), if_neg (by omega), hm]
  simp

/-! ### Unfinished sequences -/

/-- Whether an unfinished sequence may become the character of a code point. -/
structure MayBecome (u : Unfinished) (n : Nat) : Prop where
  code : n / 64 ^ u.missing = u.code
  low : u.low.toNat ≤ n / 64 ^ (u.missing - 1) % 64 + 0x80
  high : n / 64 ^ (u.missing - 1) % 64 + 0x80 ≤ u.high.toNat

/-- Whether bytes are those that have been read of an unfinished sequence: the spelling of every
character that it may become begins with them. -/
structure Begins (read : Bytes) (u : Unfinished) : Prop where
  missing : 0 < u.missing
  low : 0x80 ≤ u.low.toNat
  high : u.high.toNat ≤ 0xBF
  spelling : ∀ n, MayBecome u n → spelling n = read ++ trailing n u.missing

theorem begins_two {b : UInt8} {code : Nat} (hb : b.toNat = code + 0xC0) (hl : 2 ≤ code)
    (hu : code < 32) :
    Begins [b] ⟨code, 1, 0x80, 0xBF⟩ := by
  refine ⟨Nat.one_pos, Nat.le_refl _, Nat.le_refl _, fun n hn => ?_⟩
  have hc : n / 64 = code := by simpa using hn.code
  rw [spelling_two (by omega) (by omega), hc, ← hb, UInt8.ofNat_toNat]
  rfl

theorem begins_three {b low high : UInt8} {code : Nat} (hb : b.toNat = code + 0xE0) (hu : code < 16)
    (hlow : 0x80 ≤ low.toNat) (hhigh : high.toNat ≤ 0xBF) (hshort : code = 0 → 0xA0 ≤ low.toNat)
    (hsurrogate : code = 0xD → high.toNat ≤ 0x9F) : Begins [b] ⟨code, 2, low, high⟩ := by
  refine ⟨Nat.two_pos, hlow, hhigh, fun n hn => ?_⟩
  have hc : n / 64 ^ 2 = code := hn.code
  have h₁ : low.toNat ≤ n / 64 % 64 + 0x80 := by simpa using hn.low
  have h₂ : n / 64 % 64 + 0x80 ≤ high.toNat := by simpa using hn.high
  have hv : n.isValidChar := by
    unfold Nat.isValidChar
    omega
  rw [spelling_three hv (by omega) (by omega), hc, ← hb, UInt8.ofNat_toNat]
  rfl

theorem begins_four {b low high : UInt8} {code : Nat} (hb : b.toNat = code + 0xF0) (hu : code ≤ 4)
    (hlow : 0x80 ≤ low.toNat) (hhigh : high.toNat ≤ 0xBF) (hshort : code = 0 → 0x90 ≤ low.toNat)
    (hbeyond : code = 4 → high.toNat ≤ 0x8F) : Begins [b] ⟨code, 3, low, high⟩ := by
  refine ⟨Nat.succ_pos 2, hlow, hhigh, fun n hn => ?_⟩
  have hc : n / 64 ^ 3 = code := hn.code
  have h₁ : low.toNat ≤ n / 64 ^ 2 % 64 + 0x80 := hn.low
  have h₂ : n / 64 ^ 2 % 64 + 0x80 ≤ high.toNat := hn.high
  have hv : n.isValidChar := by
    unfold Nat.isValidChar
    omega
  rw [spelling_four hv (by omega) (by omega), hc, ← hb, UInt8.ofNat_toNat]
  rfl

/-- A leading byte begins the characters that it promises. -/
theorem begins_lead {b : UInt8} {u : Unfinished} (h : lead? b = some u) : Begins [b] u := by
  unfold lead? at h
  simp only [UInt8.le_iff_toNat_le, ← UInt8.toNat_inj, UInt8.reduceToNat] at h
  split at h
  · rw [← Option.some.inj h]
    exact begins_two (by omega) (by omega) (by omega)
  split at h
  · rw [← Option.some.inj h]
    exact begins_three (by omega) (by decide) (by decide) (by decide) (by decide) (by decide)
  split at h
  · rw [← Option.some.inj h]
    exact begins_three (by omega) (by decide) (by decide) (by decide) (by decide) (by decide)
  split at h
  · rw [← Option.some.inj h]
    exact begins_three (by omega) (by omega) (by decide) (by decide) (by omega) (by omega)
  split at h
  · rw [← Option.some.inj h]
    exact begins_four (by omega) (by decide) (by decide) (by decide) (by decide) (by decide)
  split at h
  · rw [← Option.some.inj h]
    exact begins_four (by omega) (by omega) (by decide) (by decide) (by omega) (by omega)
  split at h
  · rw [← Option.some.inj h]
    exact begins_four (by omega) (by decide) (by decide) (by decide) (by decide) (by decide)
  · cases h

/-- The code point that a sequence comes to with one more byte. -/
def codeWith (u : Unfinished) (b : UInt8) : Nat := u.code * 64 + (b.toNat - 0x80)

theorem begins_push {read : Bytes} {u : Unfinished} {b : UInt8} (h : Begins read u)
    (hm : 1 < u.missing) (hl : u.low ≤ b) (hu : b ≤ u.high) :
    Begins (read ++ [b]) ⟨codeWith u b, u.missing - 1, 0x80, 0xBF⟩ := by
  have hb := h.low
  have hb' := h.high
  rw [UInt8.le_iff_toNat_le] at hl hu
  refine ⟨Nat.sub_pos_of_lt hm, Nat.le_refl _, Nat.le_refl _, fun n hn => ?_⟩
  obtain ⟨m, hm⟩ : ∃ m, u.missing = m + 2 := ⟨u.missing - 2, by omega⟩
  have hc : n / 64 ^ (m + 1) = u.code * 64 + (b.toNat - 0x80) := by
    have hc := hn.code
    rwa [hm] at hc
  have hd : n / 64 ^ (m + 2) = n / 64 ^ (m + 1) / 64 := by rw [Nat.pow_succ, Nat.div_div_eq_div_mul]
  have he : n / 64 ^ (m + 1) % 64 + 0x80 = b.toNat := by omega
  have hn' : MayBecome u n := by
    constructor
    · rw [hm, hd]
      omega
    · rw [hm]
      exact he ▸ hl
    · rw [hm]
      exact he ▸ hu
  rw [h.spelling n hn', hm, trailing, he, UInt8.ofNat_toNat, List.append_assoc]
  rfl

theorem spelling_of_begins {read : Bytes} {u : Unfinished} {b : UInt8} (h : Begins read u)
    (hm : u.missing ≤ 1) (hl : u.low ≤ b) (hu : b ≤ u.high) :
    spelling (codeWith u b) = read ++ [b] := by
  have hb := h.low
  have hb' := h.high
  have hm : u.missing = 1 := Nat.le_antisymm hm h.missing
  rw [UInt8.le_iff_toNat_le] at hl hu
  have hc : codeWith u b / 64 = u.code := by
    unfold codeWith
    omega
  have he : codeWith u b % 64 + 0x80 = b.toNat := by
    unfold codeWith
    omega
  have hn : MayBecome u (codeWith u b) := by
    constructor
    · simpa [hm] using hc
    · simpa [hm, he] using hl
    · simpa [hm, he] using hu
  rw [h.spelling _ hn, hm]
  simp [trailing, he]

/-! ### Reading -/

/-- Whether bytes are those read since the last character. -/
def Since (read : Bytes) : Option Unfinished → Prop
  | none => read = []
  | some u => Begins read u

/-- Whether what has been read so far is spelled by the bytes read, as long as it is all
characters. -/
def Spells (bytes : Bytes) (p : Progress) : Prop :=
  ∀ text : List Char, p.scalars = text.map some →
    ∃ read, bytes = encode text.reverse ++ read ∧ Since read p.unfinished

theorem encode_concat (text : List Char) (c : Char) :
    encode (text ++ [c]) = encode text ++ String.utf8EncodeChar c := by
  simp [encode, List.flatMap_append]

/-- The characters before the last one, where all are characters. -/
theorem text_of_cons {c : Char} {scalars : List (Option Char)} {text : List Char}
    (h : some c :: scalars = text.map some) :
    ∃ rest, text = c :: rest ∧ scalars = rest.map some := by
  cases text with
  | nil => cases h
  | cons d rest =>
    obtain ⟨hc, hr⟩ := List.cons.inj h
    exact ⟨rest, by rw [Option.some.inj hc], hr⟩

theorem not_none_cons {scalars : List (Option Char)} {text : List Char} :
    none :: scalars ≠ text.map some := by
  cases text <;> simp

/-- A byte that begins a sequence, after bytes that are all spelled. -/
theorem spells_start {bytes : Bytes} {done : List (Option Char)} (b : UInt8)
    (h : ∀ text : List Char, done = text.map some → bytes = encode text.reverse) :
    Spells (bytes ++ [b]) (.start done b) := by
  intro text ht
  unfold Progress.start at ht ⊢
  by_cases hb : b < 0x80
  · rw [if_pos hb] at ht ⊢
    obtain ⟨rest, rfl, hr⟩ := text_of_cons ht
    have hs := spelling_one (UInt8.lt_iff_toNat_lt.mp hb)
    rw [spelling, UInt8.ofNat_toNat] at hs
    refine ⟨[], ?_, rfl⟩
    rw [List.reverse_cons, encode_concat, ← h rest hr, hs, List.append_nil]
  · rw [if_neg hb] at ht ⊢
    cases hl : lead? b with
    | some u =>
      simp only [hl] at ht ⊢
      exact ⟨[b], by rw [h text ht], begins_lead hl⟩
    | none =>
      simp only [hl] at ht
      exact absurd ht not_none_cons

theorem spells_push {bytes : Bytes} {p : Progress} (h : Spells bytes p) (b : UInt8) :
    Spells (bytes ++ [b]) (p.push b) := by
  unfold Spells at h
  unfold Progress.push
  cases hp : p.unfinished with
  | none =>
    refine spells_start b fun text ht => ?_
    obtain ⟨read, hb, hr⟩ := h text ht
    rw [hp] at hr
    rw [hb, show read = [] from hr, List.append_nil]
  | some u =>
    simp only [hp] at h
    dsimp only
    split
    · rename_i hb
      split
      · rename_i hm
        intro text ht
        change some (Char.ofNat (codeWith u b)) :: p.scalars = _ at ht
        obtain ⟨rest, rfl, hr⟩ := text_of_cons ht
        obtain ⟨read, hbytes, hread⟩ := h rest hr
        have hs : String.utf8EncodeChar (Char.ofNat (codeWith u b)) = read ++ [b] :=
          spelling_of_begins hread hm hb.1 hb.2
        refine ⟨[], ?_, rfl⟩
        rw [List.reverse_cons, encode_concat, hbytes, hs, List.append_nil, List.append_assoc]
      · rename_i hm
        intro text ht
        obtain ⟨read, hbytes, hread⟩ := h text ht
        refine ⟨read ++ [b], ?_, begins_push hread (Nat.lt_of_not_le hm) hb.1 hb.2⟩
        rw [hbytes, List.append_assoc]
    · exact spells_start b fun text ht => absurd ht not_none_cons

theorem spells_foldl (bytes : Bytes) : Spells bytes (bytes.foldl Progress.push ⟨[], none⟩) := by
  induction bytes using List.reverseRecOn with
  | nil =>
    intro text ht
    have hn : text = [] := List.map_eq_nil_iff.mp ht.symm
    exact ⟨[], by rw [hn]; rfl, rfl⟩
  | append_singleton bytes b ih =>
    rw [List.foldl_append]
    exact spells_push ih b

/-- Bytes without an ill-formed piece spell their characters. -/
theorem encode_of_scalars {bytes : Bytes} {text : List Char} (h : scalars bytes = text.map some) :
    encode text = bytes := by
  have hs := spells_foldl bytes
  unfold scalars Progress.finish at h
  split at h
  · rename_i hp
    have ht : (bytes.foldl Progress.push ⟨[], none⟩).scalars = text.reverse.map some := by
      rw [List.map_reverse, ← h, List.reverse_reverse]
    obtain ⟨read, hb, hr⟩ := hs text.reverse ht
    rw [hp] at hr
    rw [hb, show read = [] from hr, List.reverse_reverse, List.append_nil]
  · rw [List.reverse_eq_iff, ← List.map_reverse] at h
    exact absurd h not_none_cons

theorem lossy_of_scalars {bytes : Bytes} {text : List Char} (h : scalars bytes = text.map some) :
    lossy bytes = text := by
  rw [lossy, h, List.map_map]
  exact List.map_id text

theorem scalars_of_decode? {bytes : Bytes} {text : List Char} (h : decode? bytes = some text) :
    scalars bytes = text.map some := by
  unfold decode? at h
  generalize scalars bytes = input at h ⊢
  induction input generalizing text with
  | nil =>
    cases h
    rfl
  | cons c input ih =>
    rw [List.mapM_cons] at h
    obtain ⟨d, hd, h⟩ := Option.bind_eq_some_iff.mp h
    obtain ⟨rest, hr, h⟩ := Option.bind_eq_some_iff.mp h
    cases h
    rw [ih hr, List.map_cons]
    exact congrArg (· :: _) hd

/-- Bytes that are all characters are kept by lossy reading. -/
theorem encode_lossy {bytes : Bytes} {text : List Char} (h : scalars bytes = text.map some) :
    utf8Bytes (String.ofList (lossy bytes)) = bytes := by
  rw [lossy_of_scalars h, utf8Bytes, String.toList_ofList, encode_of_scalars h]

end ClusterArchive.Proofs.Text.Encoding
