import ClusterArchive.Log.Error
import ClusterArchive.Text.Pieces
import ClusterArchive.Text.Utf8

/-!
# Lines of a stream

A stream arrives in chunks and may fail. The reader keeps what it has of the current line in a
buffer and takes from the stream only when the buffer holds no whole line. A failure discards the
line it cuts and ends the reader; at the end of the stream the unterminated rest is a line unless it
is empty.
-/

namespace ClusterArchive.Log

/-- What arrives from a stream. -/
inductive Arrival
  | chunk (bytes : Bytes)
  | failure (detail : String)
deriving DecidableEq, Repr

/-- The bytes that arrive before a failure. -/
def delivered : List Arrival → Bytes
  | .chunk b :: rest => b ++ delivered rest
  | _ => []

/-- A reader of lines: what it holds, whether the stream is over for it, and what is still to
arrive. -/
structure LineReader where
  buffer : Bytes
  done : Bool
  stream : List Arrival
deriving DecidableEq, Repr

namespace LineReader

/-- The byte that ends a line. -/
def newline : UInt8 := 0x0A

/-- A reader at the beginning of a stream. -/
def ofStream (stream : List Arrival) : LineReader := ⟨[], false, stream⟩

/-- Takes a whole line from the buffer, if there is one. -/
def takeLine? (buffer : Bytes) : Option (Bytes × Bytes) :=
  match Text.cut newline buffer with
  | (line, some rest) => some (line, rest)
  | (_, none) => none

/-- What is left at the end of the stream. -/
def flush (buffer : Bytes) (stream : List Arrival) : Option (Except Error Bytes) × LineReader :=
  if buffer.isEmpty then (none, ⟨[], true, stream⟩) else (some (.ok buffer), ⟨[], true, stream⟩)

/-- Takes from the stream until there is a line, a failure or the end. -/
def poll (buffer : Bytes) : List Arrival → Option (Except Error Bytes) × LineReader
  | [] => flush buffer []
  | .failure detail :: rest => (some (.error (.read detail)), ⟨[], true, rest⟩)
  | .chunk bytes :: rest =>
    match takeLine? (buffer ++ bytes) with
    | some (line, more) => (some (.ok line), ⟨more, false, rest⟩)
    | none => poll (buffer ++ bytes) rest

/-- The next line without its newline, a failure, or nothing at the end. -/
def next (r : LineReader) : Option (Except Error Bytes) × LineReader :=
  match takeLine? r.buffer with
  | some (line, more) => (some (.ok line), { r with buffer := more })
  | none => if r.done then flush r.buffer r.stream else poll r.buffer r.stream

/-- A bound on how often something may still come of a stream. -/
def pendingIn : List Arrival → Nat
  | [] => 0
  | .chunk bytes :: rest => bytes.length + 1 + pendingIn rest
  | .failure _ :: rest => 1 + pendingIn rest

/-- A bound on how often the reader still yields something. -/
def pending (r : LineReader) : Nat := r.buffer.length + pendingIn r.stream

theorem length_of_takeLine? {buffer line more : Bytes} (h : takeLine? buffer = some (line, more)) :
    more.length < buffer.length := by
  unfold takeLine? at h
  split at h
  · rename_i hc
    simp only [Option.some.injEq, Prod.mk.injEq] at h
    obtain ⟨rfl, rfl⟩ := h
    have := Text.length_cut hc
    omega
  · simp at h

theorem pending_flush {buffer : Bytes} {stream : List Arrival} {x : Except Error Bytes}
    {r : LineReader} (h : flush buffer stream = (some x, r)) :
    r.pending < buffer.length + pendingIn stream := by
  unfold flush at h
  split at h
  · simp at h
  · rename_i hne
    simp only [Prod.mk.injEq] at h
    obtain ⟨-, rfl⟩ := h
    have : 0 < buffer.length := List.length_pos_iff.mpr (by simpa using hne)
    simp [pending]; omega

theorem pending_poll {x : Except Error Bytes} {r : LineReader} :
    ∀ {stream : List Arrival} {buffer : Bytes}, poll buffer stream = (some x, r) →
      r.pending < buffer.length + pendingIn stream
  | [], buffer, h => pending_flush h
  | .failure _ :: rest, buffer, h => by
    simp only [poll, Prod.mk.injEq] at h
    obtain ⟨-, rfl⟩ := h
    simp [pending, pendingIn]; omega
  | .chunk bytes :: rest, buffer, h => by
    unfold poll at h
    split at h
    · rename_i line more hl
      simp only [Prod.mk.injEq] at h
      obtain ⟨-, rfl⟩ := h
      have := length_of_takeLine? hl
      simp [pending, pendingIn] at this ⊢; omega
    · have := pending_poll h
      simp [pendingIn] at this ⊢; omega

/-- Whatever a reader yields brings it nearer to its end. -/
theorem pending_next {r r' : LineReader} {x : Except Error Bytes} (h : r.next = (some x, r')) :
    r'.pending < r.pending := by
  unfold next at h
  split at h
  · rename_i line more hl
    simp only [Prod.mk.injEq] at h
    obtain ⟨-, rfl⟩ := h
    have := length_of_takeLine? hl
    simp [pending]; omega
  · split at h
    · exact pending_flush h
    · exact pending_poll h

/-- Everything that a reader still yields. -/
def collect (r : LineReader) : List (Except Error Bytes) :=
  match _h : r.next with
  | (none, _) => []
  | (some line, r) => line :: collect r
termination_by r.pending
decreasing_by exact pending_next _h

end LineReader

/-- Everything that a reader of the stream yields. -/
def lines (stream : List Arrival) : List (Except Error Bytes) :=
  (LineReader.ofStream stream).collect

end ClusterArchive.Log
