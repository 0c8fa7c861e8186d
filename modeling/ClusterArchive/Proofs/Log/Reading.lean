import ClusterArchive.Log.Proxy
import ClusterArchive.Proofs.Text.Cutting

/-! # What a reader of lines yields

A stream stands for the bytes that it delivers and the failure that cuts it. What a reader yields is
determined by these two (`collect_eq`): the lines that end with a newline, and then the failure or,
at an orderly end, the rest if it is not empty. How the bytes are cut into chunks plays no part,
since the first line of what is in the buffer and still to come is the next one, wherever the chunks
end (`next_of_line`, `next_of_rest`). -/

namespace ClusterArchive.Proofs.Log.Reading

open ClusterArchive.Log ClusterArchive.Log.LineReader ClusterArchive.Proofs.Text.Cutting
open ClusterArchive.Text (cut pieces)

/-- The failure that cuts a stream, if there is one. -/
def failureIn : List Arrival → Option String
  | [] => none
  | .chunk _ :: rest => failureIn rest
  | .failure detail :: _ => some detail

/-- The lines of bytes that end with a newline. -/
def terminated (bytes : Bytes) : List Bytes := (pieces newline bytes).dropLast

/-- What is behind the last newline. -/
def tail (bytes : Bytes) : Bytes := (pieces newline bytes).getLast (pieces_ne_nil bytes)

/-- What comes behind the last whole line: the failure, or the rest if it is not empty. -/
def ending (rest : Bytes) : Option String → Option (Except Error Bytes)
  | some detail => some (.error (.read detail))
  | none => if rest.isEmpty then none else some (.ok rest)

/-- Everything that comes of bytes and of the failure that cuts them. -/
def yields (bytes : Bytes) (failure : Option String) : List (Except Error Bytes) :=
  (terminated bytes).map .ok ++ (ending (tail bytes) failure).toList

theorem delivered_chunks_append (rest : List Arrival) : ∀ chunks : List Bytes,
    delivered (chunks.map .chunk ++ rest) = chunks.flatten ++ delivered rest
  | [] => rfl
  | chunk :: chunks => by
    rw [List.map_cons, List.cons_append, delivered, delivered_chunks_append rest chunks,
      List.flatten_cons, List.append_assoc]

theorem delivered_chunks (chunks : List Bytes) :
    delivered (chunks.map .chunk) = chunks.flatten := by
  simpa [delivered] using delivered_chunks_append [] chunks

/-- What is still to come to a reader: the buffer and what the stream delivers. -/
def ahead (r : LineReader) : Bytes := r.buffer ++ delivered r.stream

/-! ### The first line and the rest -/

theorem yields_of_cut {bytes line rest : Bytes} (h : cut newline bytes = (line, some rest))
    (failure : Option String) : yields bytes failure = .ok line :: yields rest failure := by
  have hp : pieces newline bytes = line :: pieces newline rest := by rw [pieces_eq_of_cut, h]
  have hn : pieces newline rest ≠ [] := pieces_ne_nil rest
  have ht : terminated bytes = line :: terminated rest := by
    rw [terminated, hp, List.dropLast_cons_of_ne_nil hn, terminated]
  have hl : tail bytes = tail rest := by
    simp only [tail, hp, List.getLast_cons hn]
  rw [yields, ht, hl, List.map_cons, List.cons_append, yields]

theorem yields_of_cut_none {bytes : Bytes} (h : cut newline bytes = (bytes, none))
    (failure : Option String) : yields bytes failure = (ending bytes failure).toList := by
  have hp : pieces newline bytes = [bytes] := by rw [pieces_eq_of_cut, h]
  simp only [yields, terminated, tail, hp, List.dropLast_singleton, List.getLast_singleton,
    List.map_nil, List.nil_append]

theorem takeLine?_of_cut {buffer line rest : Bytes} (h : cut newline buffer = (line, some rest)) :
    takeLine? buffer = some (line, rest) := by
  unfold takeLine?
  rw [h]

theorem takeLine?_of_cut_none {buffer line : Bytes} (h : cut newline buffer = (line, none)) :
    takeLine? buffer = none := by
  unfold takeLine?
  rw [h]

/-- A buffer without a whole line has none when nothing follows. -/
theorem cut_ne_of_takeLine? {buffer line rest : Bytes} (h : takeLine? buffer = none) :
    cut newline (buffer ++ []) ≠ (line, some rest) := by
  intro hc
  rw [List.append_nil] at hc
  rw [takeLine?_of_cut hc] at h
  cases h

/-! ### One line -/

/-- The next line, when there is one. -/
theorem poll_of_line {line rest : Bytes} : ∀ {stream : List Arrival} {buffer : Bytes},
    takeLine? buffer = none → cut newline (buffer ++ delivered stream) = (line, some rest) →
      ∃ r', poll buffer stream = (some (.ok line), r') ∧ r'.done = false ∧ ahead r' = rest ∧
        failureIn r'.stream = failureIn stream
  | [], _, hn, hc => absurd hc (cut_ne_of_takeLine? hn)
  | .failure _ :: _, _, hn, hc => absurd hc (cut_ne_of_takeLine? hn)
  | .chunk bytes :: stream, buffer, hn, hc => by
    rw [delivered, ← List.append_assoc] at hc
    unfold poll
    -- the line ends in this chunk or behind it
    cases hb : cut newline (buffer ++ bytes) with
    | mk line' rest' =>
      cases rest' with
      | none =>
        rw [takeLine?_of_cut_none hb]
        exact poll_of_line (takeLine?_of_cut_none hb) hc
      | some rest' =>
        rw [cut_append_of_some hb] at hc
        cases hc
        rw [takeLine?_of_cut hb]
        exact ⟨⟨rest', false, stream⟩, rfl, rfl, rfl, rfl⟩

/-- What comes when there is no whole line any more. The reader is over then. -/
theorem poll_of_rest : ∀ {stream : List Arrival} {buffer : Bytes},
    cut newline (buffer ++ delivered stream) = (buffer ++ delivered stream, none) →
      ∃ s, poll buffer stream =
        (ending (buffer ++ delivered stream) (failureIn stream), ⟨[], true, s⟩)
  | [], buffer, _ => by
    change ∃ s, flush buffer [] = (ending (buffer ++ []) none, ⟨[], true, s⟩)
    rw [List.append_nil]
    refine ⟨[], ?_⟩
    unfold flush ending
    split <;> rfl
  | .failure _ :: stream, _, _ => ⟨stream, rfl⟩
  | .chunk bytes :: stream, buffer, hc => by
    rw [delivered, ← List.append_assoc] at hc ⊢
    unfold poll
    rw [takeLine?_of_cut_none (cut_of_append_none hc)]
    exact poll_of_rest hc

theorem next_of_line {r : LineReader} (hd : r.done = false) {line rest : Bytes}
    (hc : cut newline (ahead r) = (line, some rest)) :
    ∃ r', r.next = (some (.ok line), r') ∧ r'.done = false ∧ ahead r' = rest ∧
      failureIn r'.stream = failureIn r.stream := by
  unfold next
  cases hb : cut newline r.buffer with
  | mk line' rest' =>
    cases rest' with
    | none =>
      rw [takeLine?_of_cut_none hb, hd]
      exact poll_of_line (takeLine?_of_cut_none hb) hc
    | some rest' =>
      rw [ahead, cut_append_of_some hb] at hc
      cases hc
      rw [takeLine?_of_cut hb]
      exact ⟨{ r with buffer := rest' }, rfl, hd, rfl, rfl⟩

theorem next_of_rest {r : LineReader} (hd : r.done = false)
    (hc : cut newline (ahead r) = (ahead r, none)) :
    ∃ s, r.next = (ending (ahead r) (failureIn r.stream), ⟨[], true, s⟩) := by
  unfold next
  rw [takeLine?_of_cut_none (cut_of_append_none hc), hd]
  exact poll_of_rest hc

/-! ### All lines -/

theorem collect_of_none {r r' : LineReader} (h : r.next = (none, r')) : r.collect = [] := by
  rw [collect]
  split
  · rfl
  · rename_i h'
    rw [h] at h'
    cases h'

theorem collect_of_some {r r' : LineReader} {x : Except Error Bytes} (h : r.next = (some x, r')) :
    r.collect = x :: r'.collect := by
  rw [collect]
  split
  · rename_i h'
    rw [h] at h'
    cases h'
  · rename_i h'
    rw [h] at h'
    cases h'
    rfl

/-- A reader that is over yields nothing. -/
theorem collect_over (s : List Arrival) : collect ⟨[], true, s⟩ = [] := collect_of_none rfl

/-- A reader yields what comes of the bytes ahead of it and of the failure behind them. -/
theorem collect_eq (r : LineReader) (hd : r.done = false) :
    r.collect = yields (ahead r) (failureIn r.stream) := by
  cases hc : cut newline (ahead r) with
  | mk line rest =>
    cases rest with
    | none =>
      rw [fst_of_cut_none hc] at hc
      rw [yields_of_cut_none hc]
      obtain ⟨s, hs⟩ := next_of_rest hd hc
      cases he : ending (ahead r) (failureIn r.stream) with
      | none =>
        rw [he] at hs
        rw [collect_of_none hs, Option.toList_none]
      | some x =>
        rw [he] at hs
        rw [collect_of_some hs, collect_over, Option.toList_some]
    | some rest =>
      obtain ⟨r', hr, hd', ha, hf⟩ := next_of_line hd hc
      have : r'.pending < r.pending := pending_next hr
      rw [collect_of_some hr, yields_of_cut hc, collect_eq r' hd', ha, hf]
termination_by r.pending

/-- How the bytes are cut into chunks plays no part. -/
theorem lines_eq (stream : List Arrival) :
    lines stream = yields (delivered stream) (failureIn stream) :=
  collect_eq (ofStream stream) rfl

end ClusterArchive.Proofs.Log.Reading
