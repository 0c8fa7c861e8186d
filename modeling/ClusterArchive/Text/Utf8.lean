/-!
# UTF-8 text in bytes

A byte sequence is read as a list of *scalars*: `some c` for a well-formed sequence that encodes the
character `c`, `none` for a maximal ill-formed piece. Strict reading (`decode?`) wants every scalar
to be a character; lossy reading (`lossy`) puts the replacement character in the place of each piece
that is none. Both are views of `scalars`, so they agree wherever the bytes are well formed.

The reader is a fold with at most one unfinished sequence as its state. A byte that cannot continue
the unfinished sequence ends it as ill formed and is then read afresh, so an ASCII byte is never
swallowed.
-/

namespace ClusterArchive

/-- Raw bytes, as a payload, a file or a stream chunk carries them. -/
abbrev Bytes := List UInt8

namespace Utf8

/-- A sequence of two to four bytes of which the last `missing` are still to come; the next one has
to lie between `low` and `high`. -/
structure Unfinished where
  code : Nat
  missing : Nat
  low : UInt8
  high : UInt8
deriving DecidableEq, Repr

/-- What a leading byte promises: the bits it holds, how many bytes follow and the range of the next
one. The ranges leave out overlong forms, surrogates and everything above `U+10FFFF`. -/
def lead? (b : UInt8) : Option Unfinished :=
  if 0xC2 ≤ b ∧ b ≤ 0xDF then some ⟨b.toNat - 0xC0, 1, 0x80, 0xBF⟩
  else if b = 0xE0 then some ⟨0, 2, 0xA0, 0xBF⟩
  else if b = 0xED then some ⟨0xD, 2, 0x80, 0x9F⟩
  else if 0xE1 ≤ b ∧ b ≤ 0xEF then some ⟨b.toNat - 0xE0, 2, 0x80, 0xBF⟩
  else if b = 0xF0 then some ⟨0, 3, 0x90, 0xBF⟩
  else if 0xF1 ≤ b ∧ b ≤ 0xF3 then some ⟨b.toNat - 0xF0, 3, 0x80, 0xBF⟩
  else if b = 0xF4 then some ⟨4, 3, 0x80, 0x8F⟩
  else none

/-- The scalars read so far, the last one first, and the sequence that is not finished yet. -/
structure Progress where
  scalars : List (Option Char)
  unfinished : Option Unfinished

/-- Reads a byte that begins a sequence. -/
def Progress.start (done : List (Option Char)) (b : UInt8) : Progress :=
  if b < 0x80 then ⟨some (Char.ofNat b.toNat) :: done, none⟩
  else
    match lead? b with
    | some u => ⟨done, some u⟩
    | none => ⟨none :: done, none⟩

/-- Reads one byte. -/
def Progress.push (p : Progress) (b : UInt8) : Progress :=
  match p.unfinished with
  | none => .start p.scalars b
  | some u =>
    if u.low ≤ b ∧ b ≤ u.high then
      let code := u.code * 64 + (b.toNat - 0x80)
      if u.missing ≤ 1 then ⟨some (Char.ofNat code) :: p.scalars, none⟩
      else ⟨p.scalars, some ⟨code, u.missing - 1, 0x80, 0xBF⟩⟩
    else .start (none :: p.scalars) b

/-- The scalars in reading order; an unfinished sequence at the end is ill formed. -/
def Progress.finish (p : Progress) : List (Option Char) :=
  match p.unfinished with
  | none => p.scalars.reverse
  | some _ => (none :: p.scalars).reverse

/-- The characters and ill-formed pieces of a byte sequence, in order. -/
def scalars (bytes : Bytes) : List (Option Char) :=
  (bytes.foldl Progress.push ⟨[], none⟩).finish

/-- The character that stands for an ill-formed piece in lossily read text. -/
def replacement : Char := '\uFFFD'

/-- The text of any bytes, each ill-formed piece read as the replacement character. -/
def lossy (bytes : Bytes) : List Char :=
  (scalars bytes).map (·.getD replacement)

/-- The text of the bytes, if they are well-formed UTF-8 throughout. -/
def decode? (bytes : Bytes) : Option (List Char) :=
  (scalars bytes).mapM id

/-- The UTF-8 bytes of a text. -/
def encode (text : List Char) : Bytes :=
  text.flatMap String.utf8EncodeChar

end Utf8

/-- The UTF-8 bytes of a string. -/
def utf8Bytes (s : String) : Bytes := Utf8.encode s.toList

end ClusterArchive
