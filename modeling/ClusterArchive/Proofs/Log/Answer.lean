import ClusterArchive.Proofs.Log.Reading

/-! # The answer to a backend body

Every line of a body has a result, which is its projection, and the failure that cuts the body is
the last result. The two loops go through the results in order: the first one over those without
output (`firstOutput_silent`), the second one to the first error (`framesOf_eq`). So the results
determine the answer (`streamLogs_of_results`), and with them the bytes and the failure, however the
bytes arrive. -/

namespace ClusterArchive.Proofs.Log.Answer

open ClusterArchive.Log ClusterArchive.Log.LineReader ClusterArchive.Proofs.Log.Reading
open ClusterArchive.Http (Response)

/-- What a line is worth: nothing, an output or an error. -/
abbrev Result := Except Error (Option String)

/-- The lines of a body: those that end with a newline and, if no failure cuts the body, the rest
unless it is empty. -/
def bodyLines (stream : List Arrival) : List Bytes :=
  terminated (delivered stream) ++
    if failureIn stream = none ∧ tail (delivered stream) ≠ [] then [tail (delivered stream)] else []

/-- The results of a body: one for every line, and then the failure. -/
def results (p : Projection) (stream : List Arrival) : List Result :=
  (bodyLines stream).map p.project ++ (failureIn stream).toList.map fun detail =>
    .error (.read detail)

/-- The outputs before the first error. -/
def outputs : List Result → List String
  | [] | .error _ :: _ => []
  | .ok none :: rest => outputs rest
  | .ok (some out) :: rest => out :: outputs rest

/-- Results without output and without error. -/
def Silent (xs : List Result) : Prop := ∀ x ∈ xs, x = .ok none

theorem silent_nil : Silent [] := fun _ hx => by cases hx

/-! ### The errors of a line -/

theorem nonStringMatch_of_strings {e : Error} : ∀ {vs : List Json.Value},
    Projection.strings vs = .error e → ∃ value, e = .nonStringMatch value
  | .string s :: vs, h => by
    cases hs : Projection.strings vs with
    | error e' =>
      rw [Projection.strings, hs] at h
      cases h
      exact nonStringMatch_of_strings hs
    | ok ss =>
      rw [Projection.strings, hs] at h
      cases h
  | .null :: _, h | .bool _ :: _, h | .number _ :: _, h | .array _ :: _, h | .object _ :: _, h => by
    cases h
    exact ⟨_, rfl⟩

/-- A line fails because it is no value, or because of a value that is chosen and no string. -/
theorem error_of_project {p : Projection} {raw : Bytes} {e : Error} (h : p.project raw = .error e) :
    (∃ detail, e = .parse detail) ∨ ∃ value, e = .nonStringMatch value := by
  unfold Projection.project at h
  dsimp only at h
  split at h
  · cases h
  cases ho : p.output (Projection.lineText raw) with
  | ok out =>
    rw [ho] at h
    cases h
  | error e' =>
    rw [ho] at h
    cases h
    cases p with
    | passthrough => cases ho
    | select path =>
      unfold Projection.output at ho
      dsimp only at ho
      split at ho
      · cases ho
        exact .inl ⟨_, rfl⟩
      · rename_i doc _
        cases hs : Projection.strings (path.run doc) with
        | error e' =>
          rw [hs] at ho
          cases ho
          exact .inr (nonStringMatch_of_strings hs)
        | ok ss =>
          rw [hs] at ho
          cases ho

/-! ### The results that come of a reader -/

/-- The results of what a reader still yields. -/
def resultsOf (p : Projection) (r : LineReader) : List Result := r.collect.map (· >>= p.project)

theorem resultsOf_stream (p : Projection) (stream : List Arrival) :
    resultsOf p (ofStream stream) = results p stream := by
  have hc : collect (ofStream stream) =
      (bodyLines stream).map .ok ++ (failureIn stream).toList.map fun detail =>
        .error (.read detail) := by
    rw [← lines, lines_eq, yields, bodyLines]
    cases failureIn stream with
    | some detail => simp [ending]
    | none =>
      by_cases ht : tail (delivered stream) = []
      · simp [ending, ht]
      · simp [ending, ht]
  rw [resultsOf, hc, List.map_append, List.map_map, List.map_map, results]
  rfl

theorem resultsOf_end {p : Projection} {r r' : LineReader} (h : r.next = (none, r')) :
    resultsOf p r = [] := by
  rw [resultsOf, collect_of_none h, List.map_nil]

theorem resultsOf_next {p : Projection} {r r' : LineReader} {x : Except Error Bytes}
    (h : r.next = (some x, r')) : resultsOf p r = (x >>= p.project) :: resultsOf p r' := by
  rw [resultsOf, collect_of_some h, List.map_cons, resultsOf]

/-! ### The loop before the first output -/

/-- What the first loop does with results. -/
def First (p : Projection) (r : LineReader) : List Result → Prop
  | [] => firstOutput p r = .error .noLogs
  | .error e :: _ => firstOutput p r = .error e
  | .ok none :: rest => ∃ r', firstOutput p r = firstOutput p r' ∧ resultsOf p r' = rest
  | .ok (some out) :: rest => ∃ r', firstOutput p r = .ok (out, r') ∧ resultsOf p r' = rest

theorem first_resultsOf (p : Projection) (r : LineReader) : First p r (resultsOf p r) := by
  have hf := firstOutput.eq_def p r
  split at hf
  · rename_i hn
    rw [resultsOf_end hn]
    exact hf
  · rename_i hn
    rw [resultsOf_next hn]
    exact hf
  · rename_i raw r' hn
    have hr : resultsOf p r = p.project raw :: resultsOf p r' := resultsOf_next hn
    rw [hr]
    split at hf
    · rename_i hp
      rw [hp]
      exact hf
    · rename_i hp
      rw [hp]
      exact ⟨r', hf, rfl⟩
    · rename_i hp
      rw [hp]
      exact ⟨r', hf, rfl⟩

/-- Results without output are passed over. -/
theorem firstOutput_silent {p : Projection} {rest : List Result} :
    ∀ {silent : List Result} {r : LineReader}, Silent silent → resultsOf p r = silent ++ rest →
      ∃ r', firstOutput p r = firstOutput p r' ∧ resultsOf p r' = rest
  | [], r, _, h => ⟨r, rfl, h⟩
  | x :: silent, r, hs, h => by
    rw [hs x (List.mem_cons_self ..), List.cons_append] at h
    obtain ⟨r₁, hf, hr⟩ : First p r (.ok none :: (silent ++ rest)) := h ▸ first_resultsOf p r
    obtain ⟨r₂, hf', hr'⟩ := firstOutput_silent (fun y hy => hs y (List.mem_cons_of_mem x hy)) hr
    exact ⟨r₂, hf.trans hf', hr'⟩

/-! ### The loop behind it -/

theorem framesOf_eq (p : Projection) (r : LineReader) :
    framesOf p r = (outputs (resultsOf p r)).map frame := by
  unfold framesOf
  split
  · rename_i hn
    rw [resultsOf_end hn]
    rfl
  · rename_i hn
    rw [resultsOf_next hn]
    rfl
  · rename_i raw r' hn
    have : r'.pending < r.pending := pending_next hn
    have hr : resultsOf p r = p.project raw :: resultsOf p r' := resultsOf_next hn
    rw [hr]
    split
    · rename_i hp
      rw [hp]
      rfl
    · rename_i hp
      rw [hp, framesOf_eq p r']
      rfl
    · rename_i hp
      rw [hp, framesOf_eq p r']
      rfl
termination_by r.pending

/-! ### The answer -/

theorem streamLogs_silent_error {p : Projection} {stream : List Arrival} {silent rest : List Result}
    {e : Error} (hs : Silent silent) (h : results p stream = silent ++ .error e :: rest) :
    streamLogs p stream = .error e := by
  rw [← resultsOf_stream] at h
  obtain ⟨r, hf, hr⟩ := firstOutput_silent hs h
  have he : First p r (.error e :: rest) := hr ▸ first_resultsOf p r
  unfold streamLogs
  rw [hf, he]

theorem streamLogs_silent {p : Projection} {stream : List Arrival}
    (hs : Silent (results p stream)) :
    streamLogs p stream = .error .noLogs := by
  have h : resultsOf p (ofStream stream) = results p stream ++ [] := by
    rw [resultsOf_stream, List.append_nil]
  obtain ⟨r, hf, hr⟩ := firstOutput_silent hs h
  have he : First p r [] := hr ▸ first_resultsOf p r
  unfold streamLogs
  rw [hf, he]

theorem outputs_silent_append {silent : List Result} (hs : Silent silent) (rest : List Result) :
    outputs (silent ++ rest) = outputs rest := by
  induction silent with
  | nil => rfl
  | cons x silent ih =>
    rw [hs x (List.mem_cons_self ..)]
    exact ih fun y hy => hs y (List.mem_cons_of_mem x hy)

theorem streamLogs_silent_some {p : Projection} {stream : List Arrival} {silent rest : List Result}
    {out : String} (hs : Silent silent) (h : results p stream = silent ++ .ok (some out) :: rest) :
    streamLogs p stream = .ok ⟨200, some "text/plain; charset=utf-8",
      (outputs (results p stream)).map fun out => utf8Bytes out ++ [0x0A]⟩ := by
  have ho : outputs (results p stream) = out :: outputs rest := by
    rw [h, outputs_silent_append hs, outputs]
  rw [← resultsOf_stream] at h
  obtain ⟨r, hf, hr⟩ := firstOutput_silent hs h
  obtain ⟨r', hf', hr'⟩ : First p r (.ok (some out) :: rest) := hr ▸ first_resultsOf p r
  unfold streamLogs
  rw [hf, hf', ho]
  simp only [framesOf_eq, hr', List.map_cons]
  rfl

/-- Results are silent up to the first error or output, if there is one. -/
theorem silent_prefix : ∀ xs : List Result, Silent xs ∨
    ∃ silent x rest, xs = silent ++ x :: rest ∧ Silent silent ∧
      ((∃ e, x = .error e) ∨ ∃ out, x = .ok (some out))
  | [] => Or.inl silent_nil
  | .error e :: xs => Or.inr ⟨[], _, xs, rfl, silent_nil, Or.inl ⟨e, rfl⟩⟩
  | .ok (some out) :: xs => Or.inr ⟨[], _, xs, rfl, silent_nil, Or.inr ⟨out, rfl⟩⟩
  | .ok none :: xs => by
    rcases silent_prefix xs with hs | ⟨silent, x, rest, rfl, hs, hx⟩
    · exact Or.inl (List.forall_mem_cons.mpr ⟨rfl, hs⟩)
    · exact Or.inr ⟨.ok none :: silent, x, rest, rfl, List.forall_mem_cons.mpr ⟨rfl, hs⟩, hx⟩

theorem mem_of_mem_outputs {out : String} :
    ∀ {xs : List Result}, out ∈ outputs xs → .ok (some out) ∈ xs
  | .ok none :: _, h => List.mem_cons_of_mem _ (mem_of_mem_outputs h)
  | .ok (some _) :: _, h => by
    rcases List.mem_cons.mp h with rfl | h
    · exact List.mem_cons_self ..
    · exact List.mem_cons_of_mem _ (mem_of_mem_outputs h)

/-- What is in a committed body: outputs of lines, and nothing else. -/
theorem frame_of_line {p : Projection} {stream : List Arrival} {response : Response}
    (h : streamLogs p stream = .ok response) :
    ∀ b ∈ response.frames, ∃ line ∈ bodyLines stream, ∃ out,
      p.project line = .ok (some out) ∧ b = utf8Bytes out ++ [0x0A] := by
  rcases silent_prefix (results p stream) with hs | ⟨silent, x, rest, hx, hs, ⟨e, rfl⟩ | ⟨out, rfl⟩⟩
  · rw [streamLogs_silent hs] at h
    cases h
  · rw [streamLogs_silent_error hs hx] at h
    cases h
  · rw [streamLogs_silent_some hs hx] at h
    cases h
    intro b hb
    obtain ⟨out', ho, rfl⟩ := List.mem_map.mp hb
    have hm : .ok (some out') ∈ results p stream := mem_of_mem_outputs ho
    rcases List.mem_append.mp hm with hm | hm
    · obtain ⟨line, hl, hp⟩ := List.mem_map.mp hm
      exact ⟨line, hl, out', hp, rfl⟩
    · obtain ⟨detail, -, hd⟩ := List.mem_map.mp hm
      cases hd

/-- How a body is answered. -/
structure Answered (p : Projection) (stream : List Arrival) (answer : Except Error Response) :
    Prop where
  failed : ∀ silent e rest, Silent silent → results p stream = silent ++ .error e :: rest →
    answer = .error e
  silent : Silent (results p stream) → answer = .error .noLogs
  committed : ∀ silent out rest, Silent silent →
    results p stream = silent ++ .ok (some out) :: rest →
    answer = .ok ⟨200, some "text/plain; charset=utf-8",
      (outputs (results p stream)).map fun out => utf8Bytes out ++ [0x0A]⟩
  onlyLines : ∀ response, answer = .ok response → ∀ b ∈ response.frames,
    ∃ line ∈ bodyLines stream, ∃ out, p.project line = .ok (some out) ∧ b = utf8Bytes out ++ [0x0A]
  anyChunks : ∀ other, delivered other = delivered stream → failureIn other = failureIn stream →
    streamLogs p other = answer

/-- **Lines decide the answer**: the first error or output among the results of a body decides
between an error and a success, whose frames are the outputs before the first error; the cut into
chunks plays no part. -/
theorem streamLogs_of_results (p : Projection) (stream : List Arrival) :
    Answered p stream (streamLogs p stream) where
  failed _ _ _ hs h := streamLogs_silent_error hs h
  silent hs := streamLogs_silent hs
  committed _ _ _ hs h := streamLogs_silent_some hs h
  onlyLines _ h := frame_of_line h
  anyChunks other hd hf := by
    have hr : results p other = results p stream := by
      unfold results bodyLines
      rw [hd, hf]
    rcases silent_prefix (results p stream) with hs |
      ⟨silent, x, rest, hx, hs, ⟨e, rfl⟩ | ⟨out, rfl⟩⟩
    · rw [streamLogs_silent hs, streamLogs_silent (hr ▸ hs)]
    · rw [streamLogs_silent_error hs hx, streamLogs_silent_error hs (hr.trans hx)]
    · rw [streamLogs_silent_some hs hx, streamLogs_silent_some hs (hr.trans hx), hr]

end ClusterArchive.Proofs.Log.Answer
