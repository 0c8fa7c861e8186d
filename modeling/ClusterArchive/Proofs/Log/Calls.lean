import ClusterArchive.Proofs.Log.Reading

/-! # A reader that is called again and again

Bytes are cut into whole lines and a rest in one way only (`pieces_of_lined`), and the calls of a
reader answer with these lines, then with the failure or the rest, and then with nothing for ever
(`answer_eq`): once a call has answered with a failure or with nothing, the reader is over and does
not look at the stream again (`over_of_next`). Before it takes from the stream it has looked through
its buffer, so it never holds a newline when it does (`newline_not_mem_of_held`).

* `after`, `answer`: the reader after some calls, and what the next call answers.
* `heldIn`: what the reader holds whenever a call takes from the stream.
* `calls_yield_lines`: what the calls on a reader of a stream answer, one after another. -/

namespace ClusterArchive.Proofs.Log.Calls

open ClusterArchive.Log ClusterArchive.Log.LineReader ClusterArchive.Proofs.Log.Reading
open ClusterArchive.Proofs.Text.Cutting
open ClusterArchive.Text (pieces)

/-! ### Whole lines and a rest -/

/-- Bytes that consist of whole lines, each with a newline behind it, and a rest without newline. -/
structure Lined (bytes : Bytes) (whole : List Bytes) (rest : Bytes) : Prop where
  bytes_eq : bytes = whole.flatMap (· ++ [newline]) ++ rest
  whole : ∀ line ∈ whole, newline ∉ line
  rest : newline ∉ rest

theorem exists_lined : ∀ bytes : Bytes, ∃ whole rest, Lined bytes whole rest
  | [] => ⟨[], [], rfl, List.forall_mem_nil _, List.not_mem_nil⟩
  | b :: bytes => by
    obtain ⟨whole, rest, rfl, hw, hr⟩ := exists_lined bytes
    by_cases hb : b = newline
    · subst hb
      exact ⟨[] :: whole, rest, rfl, List.forall_mem_cons.mpr ⟨List.not_mem_nil, hw⟩, hr⟩
    · cases whole with
      | nil => exact ⟨[], b :: rest, rfl, hw, List.not_mem_cons_of_ne_of_not_mem (Ne.symm hb) hr⟩
      | cons line whole =>
        obtain ⟨hl, hw⟩ := List.forall_mem_cons.mp hw
        exact ⟨(b :: line) :: whole, rest, rfl,
          List.forall_mem_cons.mpr ⟨List.not_mem_cons_of_ne_of_not_mem (Ne.symm hb) hl, hw⟩, hr⟩

section Lined

variable {bytes rest : Bytes} {whole : List Bytes}

/-- The pieces of bytes are their whole lines and the rest. -/
theorem pieces_of_lined (h : Lined bytes whole rest) : pieces newline bytes = whole ++ [rest] := by
  obtain ⟨rfl, hw, hr⟩ := h
  induction whole with
  | nil => exact pieces_of_not_mem hr
  | cons line whole ih =>
    obtain ⟨hl, hw⟩ := List.forall_mem_cons.mp hw
    rw [List.flatMap_cons, List.append_assoc, List.append_assoc, List.singleton_append,
      pieces_append_of_not_mem hl, ih hw, List.cons_append]

theorem yields_of_lined (h : Lined bytes whole rest) (failure : Option String) :
    yields bytes failure = whole.map .ok ++ (ending rest failure).toList := by
  have hp := pieces_of_lined h
  have hw : terminated bytes = whole := by rw [terminated, hp, List.dropLast_concat]
  have hr : tail bytes = rest := by simp only [tail, hp, List.getLast_concat]
  rw [yields, hw, hr]

end Lined

/-! ### Calls -/

/-- The reader after some calls. -/
def after (r : LineReader) : Nat → LineReader
  | 0 => r
  | n + 1 => after r.next.2 n

/-- What the next call answers after some calls. -/
def answer (r : LineReader) (n : Nat) : Option (Except Error Bytes) := (after r n).next.1

/-- A reader to which nothing comes any more, whatever the stream holds. -/
def Over (r : LineReader) : Prop := r.buffer = [] ∧ r.done = true

variable {r r' : LineReader}

theorem after_succ (r : LineReader) : ∀ n, after r (n + 1) = (after r n).next.2
  | 0 => rfl
  | n + 1 => after_succ r.next.2 n

theorem next_over (h : Over r) : r.next = (none, r) := by
  obtain ⟨buffer, done, stream⟩ := r
  obtain ⟨rfl, rfl⟩ := h
  rfl

theorem answer_over (h : Over r) (n : Nat) : answer r n = none := by
  have ha : ∀ n, after r n = r := fun n => by
    induction n with
    | zero => rfl
    | succ n ih => rw [after, next_over h, ih]
  rw [answer, ha, next_over h]

theorem over_flush (buffer : Bytes) (stream : List Arrival) : Over (flush buffer stream).2 := by
  unfold flush
  split <;> exact ⟨rfl, rfl⟩

/-- Only a line leaves a reader something to do. -/
theorem over_of_poll : ∀ {stream : List Arrival} {buffer : Bytes},
    (∀ line, (poll buffer stream).1 ≠ some (.ok line)) → Over (poll buffer stream).2
  | [], buffer, _ => over_flush buffer []
  | .failure _ :: _, _, _ => ⟨rfl, rfl⟩
  | .chunk bytes :: stream, buffer, h => by
    unfold poll at h ⊢
    split at h
    · rename_i line _ _
      exact absurd rfl (h line)
    · exact over_of_poll h

theorem over_of_next (h : ∀ line, r.next.1 ≠ some (.ok line)) : Over r.next.2 := by
  unfold next at h ⊢
  split at h
  · rename_i line _ _
    exact absurd rfl (h line)
  · split
    · exact over_flush _ _
    · rename_i hd
      rw [if_neg hd] at h
      exact over_of_poll h

theorem answer_succ {x : Option (Except Error Bytes)} (h : r.next = (x, r')) (n : Nat) :
    answer r (n + 1) = answer r' n := by
  rw [answer, after, h, answer]

/-- The calls answer one after another with everything that the reader yields, and then with
nothing. -/
theorem answer_eq (r : LineReader) (n : Nat) : answer r n = r.collect[n]? := by
  induction n generalizing r with
  | zero =>
    change r.next.1 = r.collect[0]?
    cases h : r.next with
    | mk x r' =>
      cases x with
      | none => rw [collect_of_none h, List.getElem?_nil]
      | some x => rw [collect_of_some h, List.getElem?_cons_zero]
  | succ n ih =>
    cases h : r.next with
    | mk x r' =>
      rw [answer_succ h]
      cases x with
      | none =>
        have ho : Over r.next.2 := over_of_next fun line hl => by rw [h] at hl; cases hl
        rw [h] at ho
        rw [answer_over ho, collect_of_none h, List.getElem?_nil]
      | some x => rw [ih, collect_of_some h, List.getElem?_cons_succ]

/-! ### What is held when the stream is taken from -/

/-- `poll`, with what is held each time the stream is taken from. -/
def pollHolding (buffer : Bytes) :
    List Arrival → List Bytes × Option (Except Error Bytes) × LineReader
  | [] => ([buffer], flush buffer [])
  | .failure detail :: rest => ([buffer], some (.error (.read detail)), ⟨[], true, rest⟩)
  | .chunk bytes :: rest =>
    match takeLine? (buffer ++ bytes) with
    | some (line, more) => ([buffer], some (.ok line), ⟨more, false, rest⟩)
    | none =>
      (buffer :: (pollHolding (buffer ++ bytes) rest).1, (pollHolding (buffer ++ bytes) rest).2)

/-- `next`, with what is held each time the stream is taken from. -/
def nextHolding (r : LineReader) : List Bytes × Option (Except Error Bytes) × LineReader :=
  match takeLine? r.buffer with
  | some (line, more) => ([], some (.ok line), { r with buffer := more })
  | none => if r.done then ([], flush r.buffer r.stream) else pollHolding r.buffer r.stream

/-- What the reader holds each time the next call takes from the stream. -/
def heldIn (r : LineReader) : List Bytes := (nextHolding r).1

theorem pollHolding_snd : ∀ (stream : List Arrival) (buffer : Bytes),
    (pollHolding buffer stream).2 = poll buffer stream
  | [], _ => rfl
  | .failure _ :: _, _ => rfl
  | .chunk bytes :: stream, buffer => by
    unfold pollHolding poll
    cases takeLine? (buffer ++ bytes) with
    | some _ => rfl
    | none => exact pollHolding_snd stream (buffer ++ bytes)

/-- A call that is watched is the same call. -/
theorem nextHolding_snd (r : LineReader) : (nextHolding r).2 = r.next := by
  unfold nextHolding next
  cases takeLine? r.buffer with
  | some _ => rfl
  | none =>
    cases r.done with
    | true => rfl
    | false => exact pollHolding_snd r.stream r.buffer

theorem stream_flush (buffer : Bytes) (stream : List Arrival) :
    (flush buffer stream).2.stream = stream := by
  unfold flush
  split <;> rfl

theorem stream_poll : ∀ (stream : List Arrival) (buffer : Bytes),
    (poll buffer stream).2.stream = stream.drop (pollHolding buffer stream).1.length
  | [], buffer => stream_flush buffer []
  | .failure _ :: _, _ => rfl
  | .chunk bytes :: stream, buffer => by
    unfold poll pollHolding
    cases takeLine? (buffer ++ bytes) with
    | some _ => rfl
    | none => exact stream_poll stream (buffer ++ bytes)

/-- A call holds something each time it takes from the stream, and no other time. -/
theorem stream_next (r : LineReader) : r.next.2.stream = r.stream.drop (heldIn r).length := by
  unfold heldIn nextHolding next
  cases takeLine? r.buffer with
  | some _ => rfl
  | none =>
    cases r.done with
    | true => exact stream_flush r.buffer r.stream
    | false => exact stream_poll r.stream r.buffer

/-- A buffer without a whole line holds no newline. -/
theorem newline_not_mem {buffer : Bytes} (h : takeLine? buffer = none) : newline ∉ buffer := by
  intro hm
  obtain ⟨whole, rest, hl⟩ := exists_lined buffer
  obtain ⟨rfl, hw, hr⟩ := hl
  cases whole with
  | nil => exact hr hm
  | cons line whole =>
    have hc :=
      cut_of_not_mem (List.forall_mem_cons.mp hw).1 (whole.flatMap (· ++ [newline]) ++ rest)
    rw [List.flatMap_cons, List.append_assoc, List.append_assoc, List.singleton_append,
      takeLine?_of_cut hc] at h
    cases h

theorem newline_not_mem_of_pollHolding : ∀ {stream : List Arrival} {buffer : Bytes},
    takeLine? buffer = none → ∀ held ∈ (pollHolding buffer stream).1, newline ∉ held
  | [], _, h => List.forall_mem_singleton.mpr (newline_not_mem h)
  | .failure _ :: _, _, h => List.forall_mem_singleton.mpr (newline_not_mem h)
  | .chunk bytes :: stream, buffer, h => by
    unfold pollHolding
    split
    · exact List.forall_mem_singleton.mpr (newline_not_mem h)
    · rename_i hn
      exact List.forall_mem_cons.mpr ⟨newline_not_mem h, newline_not_mem_of_pollHolding hn⟩

theorem newline_not_mem_of_held : ∀ held ∈ heldIn r, newline ∉ held := by
  unfold heldIn nextHolding
  split
  · exact fun _ h => by cases h
  · rename_i hn
    split
    · exact fun _ h => by cases h
    · exact newline_not_mem_of_pollHolding hn

/-! ### Lines joined again -/

/-- Bytes without a newline at their end. -/
def withoutFinal (bytes : Bytes) : Bytes :=
  if bytes.getLast? = some newline then bytes.dropLast else bytes

theorem intercalate_concat (last : Bytes) : ∀ lines : List Bytes,
    [newline].intercalate (lines ++ [last]) = lines.flatMap (· ++ [newline]) ++ last
  | [] => List.intercalate_singleton
  | line :: lines => by
    have hn : lines ++ [last] ≠ [] :=
      List.append_ne_nil_of_right_ne_nil lines (List.cons_ne_nil last [])
    rw [List.cons_append, List.intercalate_cons_of_ne_nil hn, intercalate_concat last lines,
      List.flatMap_cons, List.append_assoc _ _ last]

/-- The lines of bytes, the rest being one of them unless it is empty. -/
def linesOf (whole : List Bytes) (rest : Bytes) : List Bytes :=
  whole ++ if rest.isEmpty then [] else [rest]

theorem intercalate_linesOf {bytes rest : Bytes} {whole : List Bytes} (h : Lined bytes whole rest) :
    [newline].intercalate (linesOf whole rest) = withoutFinal bytes := by
  obtain ⟨rfl, -, hr⟩ := h
  unfold linesOf withoutFinal
  cases rest with
  | nil =>
    rw [List.isEmpty_nil, if_pos rfl, List.append_nil, List.append_nil]
    -- the last newline is that of the last line, if there is a line
    rcases List.eq_nil_or_concat whole with rfl | ⟨front, last, rfl⟩
    · rfl
    · rw [List.concat_eq_append, intercalate_concat, List.flatMap_append, List.flatMap_singleton,
        ← List.append_assoc, List.getLast?_concat, if_pos rfl, List.dropLast_concat]
  | cons b rest =>
    have hn : (whole.flatMap (· ++ [newline]) ++ b :: rest).getLast? ≠ some newline := fun he => by
      rw [List.getLast?_append, List.getLast?_eq_some_getLast (List.cons_ne_nil b rest),
        Option.some_or] at he
      exact hr (Option.some.inj he ▸ List.getLast_mem _)
    rw [if_neg hn, List.isEmpty_cons, if_neg Bool.false_ne_true, intercalate_concat]

/-! ### The calls on a reader of a stream -/

/-- What the calls on a reader of a stream answer, when whole lines and a rest are delivered. -/
structure Yielded (stream : List Arrival) (whole : List Bytes) (rest : Bytes) : Prop where
  lined : Lined (delivered stream) whole rest
  /-- The whole lines, then the failure or the rest, and then nothing for ever. -/
  answers : ∀ n, answer (ofStream stream) n =
    (whole.map .ok ++ (ending rest (failureIn stream)).toList)[n]?
  /-- Behind a failure, and behind the end, nothing comes whatever the stream still holds. -/
  ended : ∀ n, (∀ line, answer (ofStream stream) n ≠ some (.ok line)) →
    ∀ still k, answer { after (ofStream stream) (n + 1) with stream := still } k = none
  /-- A call that is watched is the same call, and holds something each time it takes from the
  stream. -/
  watched : ∀ n, (nextHolding (after (ofStream stream) n)).2 = (after (ofStream stream) n).next ∧
    (after (ofStream stream) (n + 1)).stream =
      (after (ofStream stream) n).stream.drop (heldIn (after (ofStream stream) n)).length
  /-- No newline is held whenever the stream is taken from. -/
  held : ∀ n, ∀ held ∈ heldIn (after (ofStream stream) n), newline ∉ held
  /-- The cut into chunks plays no part. -/
  anyChunks : ∀ other, delivered other = delivered stream → failureIn other = failureIn stream →
    ∀ n, answer (ofStream other) n = answer (ofStream stream) n
  /-- Without a failure the lines give back the bytes, but for a newline at their end. -/
  joined : failureIn stream = none → ∃ lines : List Bytes,
    (∀ n, answer (ofStream stream) n = (lines.map .ok)[n]?) ∧
      [newline].intercalate lines = withoutFinal (delivered stream)

theorem answer_ofStream (stream : List Arrival) (n : Nat) :
    answer (ofStream stream) n = (yields (delivered stream) (failureIn stream))[n]? := by
  rw [answer_eq, ← lines_eq, lines]

/-- **The calls yield the lines**: of every stream, however it is cut into chunks, the whole lines,
then the failure or what is left, and nothing ever after. -/
theorem calls_yield_lines (stream : List Arrival) : ∃ whole rest, Yielded stream whole rest := by
  obtain ⟨whole, rest, hl⟩ := exists_lined (delivered stream)
  have ha : ∀ n, answer (ofStream stream) n =
      (whole.map .ok ++ (ending rest (failureIn stream)).toList)[n]? := fun n => by
    rw [answer_ofStream, yields_of_lined hl]
  refine ⟨whole, rest, hl, ha, fun n hn still k => ?_, fun n => ⟨nextHolding_snd _, ?_⟩,
    fun _ => newline_not_mem_of_held, fun other hd hf n => ?_,
    fun hf => ⟨linesOf whole rest, fun n => ?_, intercalate_linesOf hl⟩⟩
  · have ho : Over (after (ofStream stream) (n + 1)) := by
      rw [after_succ]
      exact over_of_next hn
    have hs : Over { after (ofStream stream) (n + 1) with stream := still } := ⟨ho.1, ho.2⟩
    exact answer_over hs k
  · rw [after_succ, stream_next]
  · rw [answer_ofStream, answer_ofStream, hd, hf]
  · rw [ha, hf, linesOf, ending]
    cases rest <;> simp

end ClusterArchive.Proofs.Log.Calls
