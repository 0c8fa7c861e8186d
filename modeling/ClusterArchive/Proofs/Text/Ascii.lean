import ClusterArchive.Proofs.Text.Cutting
import ClusterArchive.Proofs.Text.Encoding

/-! # ASCII bytes stand for themselves

A byte below `0x80` is read as its character wherever it stands: it never goes on with an unfinished
sequence, so it ends what is before it, well formed or not, and what is behind it is read afresh
(`scalars_append_ascii`). No other byte yields its character (`mem_of_char_mem_scalars`), since what
an unfinished sequence becomes is spelled with more than one byte. So to cut bytes at an ASCII byte
and read the pieces lossily is to read the bytes lossily and cut the text at the character
(`pieces_lossy`). -/

namespace ClusterArchive.Proofs.Text.Ascii

open ClusterArchive.Utf8 ClusterArchive.Text ClusterArchive.Proofs.Text.Encoding
open ClusterArchive.Proofs.Text.Cutting

variable {a b : UInt8} {p : Progress} {bytes : Bytes}

/-- The character of an ASCII byte. -/
def charOf (a : UInt8) : Char := Char.ofNat a.toNat

theorem spelling_charOf (ha : a < 0x80) : String.utf8EncodeChar (charOf a) = [a] := by
  have hs := spelling_one (UInt8.lt_iff_toNat_lt.mp ha)
  rwa [UInt8.ofNat_toNat] at hs

theorem charOf_ne_replacement (ha : a < 0x80) : charOf a ≠ replacement := fun h => by
  have hs := spelling_charOf ha
  rw [h] at hs
  cases hs

/-! ### Progress of the reader -/

/-- Whether the unfinished sequence, if there is one, is the beginning of some characters. -/
def Begun (p : Progress) : Prop := ∀ u, p.unfinished = some u → ∃ read, read ≠ [] ∧ Begins read u

theorem begun_start (done : List (Option Char)) (b : UInt8) : Begun (.start done b) := by
  intro u hu
  unfold Progress.start at hu
  split at hu
  · cases hu
  · cases hl : lead? b with
    | none => simp [hl] at hu
    | some v =>
      simp only [hl, Option.some.injEq] at hu
      exact ⟨[b], List.cons_ne_nil b [], hu ▸ begins_lead hl⟩

theorem begun_push (h : Begun p) (b : UInt8) : Begun (p.push b) := by
  unfold Progress.push
  split
  · exact begun_start _ b
  · rename_i u hu
    split
    · rename_i hb
      dsimp only
      split
      · exact fun v hv => by cases hv
      · rename_i hm
        obtain ⟨read, hn, hr⟩ := h u hu
        intro v hv
        obtain rfl := Option.some.inj hv
        exact ⟨read ++ [b], by simp, begins_push hr (Nat.lt_of_not_le hm) hb.1 hb.2⟩
    · exact begun_start _ b

theorem begun_foldl :
    ∀ (bytes : Bytes) {p : Progress}, Begun p → Begun (bytes.foldl Progress.push p)
  | [], _, h => h
  | b :: bytes, _, h => begun_foldl bytes (begun_push h b)

/-- An ASCII byte ends an unfinished sequence. -/
theorem push_ascii (ha : a < 0x80) (h : Begun p) :
    p.push a = ⟨some (charOf a) :: p.finish.reverse, none⟩ := by
  unfold Progress.push Progress.finish
  cases hu : p.unfinished with
  | none =>
    simp only [Progress.start, if_pos ha, List.reverse_reverse]
    rfl
  | some u =>
    obtain ⟨read, -, hr⟩ := h u hu
    have hl : ¬ (u.low ≤ a ∧ a ≤ u.high) := fun hb => by
      have hlow := hr.low
      have hb := hb.1
      rw [UInt8.le_iff_toNat_le] at hb
      rw [UInt8.lt_iff_toNat_lt] at ha
      exact absurd (Nat.le_trans hlow hb) (Nat.not_le.mpr ha)
    simp only [if_neg hl, Progress.start, if_pos ha, List.reverse_reverse]
    rfl

/-- The progress with other scalars read before. -/
def after (done : List (Option Char)) (p : Progress) : Progress := ⟨p.scalars ++ done, p.unfinished⟩

theorem start_after (done before : List (Option Char)) (b : UInt8) :
    Progress.start (before ++ done) b = after done (.start before b) := by
  unfold Progress.start
  split
  · rfl
  · split <;> rfl

/-- What has been read before plays no part in what is read next. -/
theorem push_after (done : List (Option Char)) (p : Progress) (b : UInt8) :
    (after done p).push b = after done (p.push b) := by
  obtain ⟨before, u⟩ := p
  unfold Progress.push
  cases u with
  | none => exact start_after done before b
  | some u =>
    dsimp only [after]
    split
    · split <;> rfl
    · exact start_after done (none :: before) b

theorem foldl_after (done : List (Option Char)) : ∀ (bytes : Bytes) (p : Progress),
    bytes.foldl Progress.push (after done p) = after done (bytes.foldl Progress.push p)
  | [], _ => rfl
  | b :: bytes, p => by
    rw [List.foldl_cons, push_after, foldl_after done bytes, List.foldl_cons]

theorem finish_after (done : List (Option Char)) (p : Progress) :
    (after done p).finish = done.reverse ++ p.finish := by
  obtain ⟨before, u⟩ := p
  cases u <;> simp [after, Progress.finish]

/-- **An ASCII byte is read as its character**, and what stands before and behind it is read by
itself. -/
theorem scalars_append_ascii (ha : a < 0x80) (front back : Bytes) :
    scalars (front ++ a :: back) = scalars front ++ some (charOf a) :: scalars back := by
  have hb : Begun (front.foldl Progress.push ⟨[], none⟩) :=
    begun_foldl front fun u hu => by cases hu
  rw [scalars, List.foldl_append, List.foldl_cons, push_ascii ha hb]
  change (back.foldl Progress.push (after _ ⟨[], none⟩)).finish = _
  rw [foldl_after, finish_after, List.reverse_cons, List.reverse_reverse, List.append_assoc]
  rfl

/-! ### No other byte -/

/-- A sequence becomes no ASCII character. -/
theorem codeWith_ne_charOf {u : Unfinished} {read : Bytes} (ha : a < 0x80) (hr : Begins read u)
    (hn : read ≠ []) (hm : u.missing ≤ 1) (hl : u.low ≤ b) (hu : b ≤ u.high) :
    Char.ofNat (codeWith u b) ≠ charOf a := fun h => by
  have hs : String.utf8EncodeChar (Char.ofNat (codeWith u b)) = read ++ [b] :=
    spelling_of_begins hr hm hl hu
  rw [h, spelling_charOf ha] at hs
  have hlen : 1 = read.length + 1 := by simpa using congrArg List.length hs
  exact hn (List.length_eq_zero_iff.mp (Nat.succ.inj hlen.symm))

theorem mem_start {done : List (Option Char)} (ha : a < 0x80)
    (h : some (charOf a) ∈ (Progress.start done b).scalars) : b = a ∨ some (charOf a) ∈ done := by
  unfold Progress.start at h
  split at h
  · rename_i hb
    rcases List.mem_cons.mp h with h | h
    · have hs : [b] = [a] := by
        rw [← spelling_charOf hb, ← spelling_charOf ha]
        exact congrArg String.utf8EncodeChar (Option.some.inj h).symm
      exact .inl (List.singleton_inj.mp hs)
    · exact .inr h
  · split at h
    · exact .inr h
    · exact .inr ((List.mem_cons.mp h).resolve_left (by simp))

theorem mem_push (ha : a < 0x80) (hp : Begun p) (h : some (charOf a) ∈ (p.push b).scalars) :
    b = a ∨ some (charOf a) ∈ p.scalars := by
  unfold Progress.push at h
  split at h
  · exact mem_start ha h
  · rename_i u hu
    split at h
    · rename_i hb
      dsimp only at h
      split at h
      · rename_i hm
        obtain ⟨read, hn, hr⟩ := hp u hu
        rcases List.mem_cons.mp h with h | h
        · exact absurd (Option.some.inj h).symm (codeWith_ne_charOf ha hr hn hm hb.1 hb.2)
        · exact .inr h
      · exact .inr h
    · rcases mem_start ha h with h | h
      · exact .inl h
      · exact .inr ((List.mem_cons.mp h).resolve_left (by simp))

theorem mem_foldl (ha : a < 0x80) : ∀ {bytes : Bytes} {p : Progress}, Begun p →
    some (charOf a) ∈ (bytes.foldl Progress.push p).scalars →
      a ∈ bytes ∨ some (charOf a) ∈ p.scalars
  | [], _, _, h => .inr h
  | b :: bytes, p, hp, h => by
    rcases mem_foldl ha (begun_push hp b) h with h | h
    · exact .inl (List.mem_cons_of_mem b h)
    · rcases mem_push ha hp h with rfl | h
      · exact .inl List.mem_cons_self
      · exact .inr h

/-- The character of an ASCII byte comes of that byte only. -/
theorem mem_of_char_mem_scalars (ha : a < 0x80) (h : some (charOf a) ∈ scalars bytes) :
    a ∈ bytes := by
  have hb : Begun ⟨[], none⟩ := fun u hu => by cases hu
  have hm : some (charOf a) ∈ (bytes.foldl Progress.push ⟨[], none⟩).scalars := by
    unfold scalars Progress.finish at h
    split at h
    · exact List.mem_reverse.mp h
    · exact (List.mem_cons.mp (List.mem_reverse.mp h)).resolve_left (by simp)
  exact (mem_foldl ha hb hm).resolve_right List.not_mem_nil

/-! ### Lossy reading -/

theorem lossy_append_ascii (ha : a < 0x80) (front back : Bytes) :
    lossy (front ++ a :: back) = lossy front ++ charOf a :: lossy back := by
  rw [lossy, scalars_append_ascii ha, List.map_append, List.map_cons]
  rfl

theorem mem_of_char_mem_lossy (ha : a < 0x80) (h : charOf a ∈ lossy bytes) : a ∈ bytes := by
  obtain ⟨scalar, hs, hc⟩ := List.mem_map.mp h
  cases scalar with
  | none => exact absurd hc.symm (charOf_ne_replacement ha)
  | some c => exact mem_of_char_mem_scalars ha (hc ▸ hs)

/-- **Cutting commutes with lossy reading**, where it is done at an ASCII byte. -/
theorem pieces_lossy (ha : a < 0x80) (bytes : Bytes) :
    pieces (charOf a) (lossy bytes) = (pieces a bytes).map lossy := by
  by_cases hm : a ∈ bytes
  · obtain ⟨line, rest, rfl, hn⟩ := List.eq_append_cons_of_mem hm
    rw [lossy_append_ascii ha, pieces_append_of_not_mem fun h => hn (mem_of_char_mem_lossy ha h),
      pieces_append_of_not_mem hn, List.map_cons, pieces_lossy ha rest]
  · rw [pieces_of_not_mem hm, pieces_of_not_mem fun h => hm (mem_of_char_mem_lossy ha h)]
    rfl
termination_by bytes.length
decreasing_by
  subst_vars
  simp
  omega

end ClusterArchive.Proofs.Text.Ascii
