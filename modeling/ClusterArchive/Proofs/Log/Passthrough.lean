import ClusterArchive.Proofs.Log.Answer
import ClusterArchive.Proofs.Text.Ascii

/-! # Passing lines through loses no text

A body that is passed through as it is has no results with errors, so its answer is made of the
outputs of its lines (`streamLogs_of_outputs`). The lines are cut and read one by one, but they are
those of the whole body read at once (`pieces_lossy`), whichever bytes it consists of and however
they arrive. So the text that is passed on is the text of the body, line by line, without blank
lines and without the carriage returns at their ends (`passthrough_loses_no_text`). -/

namespace ClusterArchive.Proofs.Log.Passthrough

open ClusterArchive.Log ClusterArchive.Log.LineReader
open ClusterArchive.Proofs.Log.Reading ClusterArchive.Proofs.Log.Answer
open ClusterArchive.Text (pieces allBlank)

/-! ### Lines as text -/

/-- A line without one carriage return at its end. -/
def withoutReturn (line : List Char) : List Char :=
  if line.getLast? = some '\r' then line.dropLast else line

/-- The lines of a body that are passed on: those of its whole text, but for blank ones. -/
def kept (bytes : Bytes) : List (List Char) :=
  ((pieces '\n' (Utf8.lossy bytes)).map withoutReturn).filter fun line => !allBlank line

/-- The output of a line, if it is not blank. -/
def output? (raw : Bytes) : Option String :=
  let line := withoutReturn (Utf8.lossy raw)
  if allBlank line then none else some (String.ofList line)

theorem lineText_eq (raw : Bytes) : Projection.lineText raw = withoutReturn (Utf8.lossy raw) := by
  unfold Projection.lineText withoutReturn Text.withoutEnding?
  dsimp only
  generalize Utf8.lossy raw = text
  have hs : ['\r'].isSuffixOf text = true ↔ text.getLast? = some '\r' := by
    rw [List.isSuffixOf_iff_suffix, List.singleton_suffix_iff_getLast?_eq_some]
  by_cases h : text.getLast? = some '\r'
  · rw [if_pos h, if_pos (hs.mpr h), Option.getD_some, List.length_singleton, List.dropLast_eq_take]
  · rw [if_neg h, if_neg (mt hs.mp h), Option.getD_none]

theorem project_passthrough (raw : Bytes) :
    Projection.passthrough.project raw = .ok (output? raw) := by
  unfold Projection.project output?
  rw [lineText_eq]
  dsimp only
  cases hb : allBlank (withoutReturn (Utf8.lossy raw)) with
  | true => rfl
  | false =>
    -- the empty line is blank, so the output of any other is not empty
    have hn : withoutReturn (Utf8.lossy raw) ≠ [] := fun h => by
      rw [h] at hb
      cases hb
    simp [Projection.output, Except.map, hn]

theorem filterMap_output? (bytes : Bytes) :
    (pieces newline bytes).filterMap output? = (kept bytes).map String.ofList := by
  have hp : pieces '\n' (Utf8.lossy bytes) = (pieces newline bytes).map Utf8.lossy :=
    Text.Ascii.pieces_lossy (a := newline) (by decide) bytes
  rw [kept, hp]
  induction pieces newline bytes with
  | nil => rfl
  | cons raw more ih =>
    rw [List.filterMap_cons, List.map_cons, List.map_cons, List.filter_cons, ih, output?]
    cases hb : allBlank (withoutReturn (Utf8.lossy raw)) <;> simp

/-! ### Answers without errors -/

theorem outputs_ok : ∀ xs : List (Option String), outputs (xs.map .ok) = xs.filterMap id
  | [] => rfl
  | none :: xs => outputs_ok xs
  | some out :: xs => congrArg (out :: ·) (outputs_ok xs)

section NoErrors

variable {p : Projection} {stream : List Arrival} {xs : List (Option String)}
  (h : results p stream = xs.map .ok)
include h

/-- Without errors and without outputs there are no logs. -/
theorem streamLogs_of_no_outputs (hn : xs.filterMap id = []) :
    streamLogs p stream = .error .noLogs := by
  refine streamLogs_silent fun x hx => ?_
  rw [h] at hx
  obtain ⟨o, ho, rfl⟩ := List.mem_map.mp hx
  exact congrArg Except.ok (List.filterMap_eq_nil_iff.mp hn o ho)

/-- Without errors, all outputs are passed on. -/
theorem streamLogs_of_outputs (hn : xs.filterMap id ≠ []) :
    streamLogs p stream = .ok ⟨200, some "text/plain; charset=utf-8",
      (xs.filterMap id).map fun out => utf8Bytes out ++ [0x0A]⟩ := by
  have ho : outputs (results p stream) = xs.filterMap id := by rw [h, outputs_ok]
  rcases silent_prefix (results p stream) with hs | ⟨silent, x, rest, hx, hs, ⟨e, rfl⟩ | ⟨out, rfl⟩⟩
  · have he : outputs (results p stream) = [] := by
      have := outputs_silent_append hs []
      rwa [List.append_nil] at this
    exact absurd (ho ▸ he) hn
  · have hm : (.error e : Result) ∈ xs.map .ok := by
      rw [← h, hx]
      exact List.mem_append_right _ List.mem_cons_self
    obtain ⟨o, -, hc⟩ := List.mem_map.mp hm
    cases hc
  · rw [streamLogs_silent_some hs hx, ho]

end NoErrors

/-! ### The body as a whole -/

theorem failureIn_chunks : ∀ chunks : List Bytes, failureIn (chunks.map .chunk) = none
  | [] => rfl
  | _ :: chunks => failureIn_chunks chunks

/-- The rest behind the last newline counts as a line also when it is empty, since it is blank
then. -/
theorem filterMap_bodyLines {stream : List Arrival} (h : failureIn stream = none) :
    (bodyLines stream).filterMap output? = (kept (delivered stream)).map String.ofList := by
  have hp : pieces newline (delivered stream) =
      terminated (delivered stream) ++ [tail (delivered stream)] :=
    (List.dropLast_concat_getLast _).symm
  rw [← filterMap_output?, hp, bodyLines, List.filterMap_append, List.filterMap_append]
  by_cases ht : tail (delivered stream) = []
  · rw [if_neg fun hc => hc.2 ht, ht]
    rfl
  · rw [if_pos ⟨h, ht⟩]

theorem flatten_frames : ∀ lines : List (List Char),
    ((lines.map String.ofList).map fun out => utf8Bytes out ++ [0x0A]).flatten =
      Utf8.encode (lines.flatMap (· ++ ['\n']))
  | [] => rfl
  | line :: lines => by
    have hf : utf8Bytes (String.ofList line) ++ [0x0A] = Utf8.encode (line ++ ['\n']) := by
      rw [utf8Bytes, String.toList_ofList, Text.Encoding.encode_concat]
      rfl
    rw [List.map_cons, List.map_cons, List.flatten_cons, hf, flatten_frames lines,
      List.flatMap_cons]
    exact List.flatMap_append.symm

/-- How a body of bytes is answered when it is passed through. -/
structure Lossless (bytes : Bytes) (answer : Except Error Http.Response) : Prop where
  noLogs : answer = .error .noLogs ↔ kept bytes = []
  text : kept bytes ≠ [] → ∃ response, answer = .ok response ∧
    response.body = Utf8.encode ((kept bytes).flatMap (· ++ ['\n']))

/-- **Passing through loses no text**: of any bytes, however they are cut into chunks, the lines of
their text are passed on, each without a carriage return at its end and followed by a newline, but
for blank ones. -/
theorem passthrough_loses_no_text (chunks : List Bytes) :
    Lossless chunks.flatten (streamLogs .passthrough (chunks.map .chunk)) := by
  have hf := failureIn_chunks chunks
  have hr : results .passthrough (chunks.map .chunk) =
      ((bodyLines (chunks.map .chunk)).map output?).map .ok := by
    rw [results, hf, List.map_map]
    simp [funext project_passthrough, Function.comp_def]
  have hk : ((bodyLines (chunks.map .chunk)).map output?).filterMap id =
      (kept chunks.flatten).map String.ofList := by
    rw [List.filterMap_map, ← delivered_chunks, ← filterMap_bodyLines hf]
    rfl
  have hl : kept chunks.flatten ≠ [] →
      ∃ response, streamLogs .passthrough (chunks.map .chunk) = .ok response ∧
      response.body = Utf8.encode ((kept chunks.flatten).flatMap (· ++ ['\n'])) := fun hn => by
    refine ⟨_, streamLogs_of_outputs hr ?_, ?_⟩
    · rw [hk]
      exact mt List.map_eq_nil_iff.mp hn
    · rw [hk]
      exact flatten_frames (kept chunks.flatten)
  refine ⟨⟨fun he => ?_, fun hn => ?_⟩, hl⟩
  · by_contra hn
    obtain ⟨response, ho, -⟩ := hl hn
    rw [ho] at he
    cases he
  · exact streamLogs_of_no_outputs hr (by rw [hk, hn]; rfl)

end ClusterArchive.Proofs.Log.Passthrough
