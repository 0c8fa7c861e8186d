import ClusterArchive.Proofs.Log.Answer

/-! # Empty matches

The strings that a path chooses on a line are joined with newlines, and the joined text tells
whether the line contributes output. So a line is idle if it is blank, if nothing is chosen on it,
or if the one string that is chosen is empty (`project_eq_none_iff`). Two empty strings join to a
newline, which is output (`project_eq_some_iff`). There are no logs exactly if a body comes to its
end with idle lines only, and idle lines never make an answer a success
(`nothing_of_lone_empty_match`). -/

namespace ClusterArchive.Proofs.Log.EmptyMatches

open ClusterArchive.Log ClusterArchive.Proofs.Log.Reading ClusterArchive.Proofs.Log.Answer
open ClusterArchive.Http (Response)
open ClusterArchive.Text (allBlank)

variable {p : Projection} {path : Path.Query} {raw : Bytes} {stream : List Arrival}

/-! ### One line -/

/-- Whether a line is not blank and the strings that a path chooses on it are the given ones, with
no other values among them. -/
def Chooses (path : Path.Query) (raw : Bytes) (matched : List String) : Prop :=
  allBlank (Projection.lineText raw) = false ∧
    ∃ doc, Json.readText? (Projection.lineText raw) = some doc ∧ path.run doc = matched.map .string

/-- Whether a line is blank or has no match but perhaps one, which is empty. -/
def Idle (path : Path.Query) (raw : Bytes) : Prop :=
  allBlank (Projection.lineText raw) = true ∨
    ∃ matched, Chooses path raw matched ∧ (matched = [] ∨ matched = [""])

theorem strings_map : ∀ ss : List String, Projection.strings (ss.map .string) = .ok ss
  | [] => rfl
  | s :: ss => by
    rw [List.map_cons, Projection.strings, strings_map ss]
    rfl

theorem eq_map_of_strings : ∀ {vs : List Json.Value} {ss : List String},
    Projection.strings vs = .ok ss → vs = ss.map .string
  | [], ss, h => by
    cases h
    rfl
  | .string s :: vs, ss, h => by
    cases hs : Projection.strings vs with
    | error e =>
      rw [Projection.strings, hs] at h
      cases h
    | ok ss' =>
      rw [Projection.strings, hs] at h
      cases h
      rw [List.map_cons, eq_map_of_strings hs]
  | .null :: _, _, h | .bool _ :: _, _, h | .number _ :: _, _, h | .array _ :: _, _, h
  | .object _ :: _, _, h => by cases h

theorem output_eq_ok_iff {text : List Char} {out : String} :
    (Projection.select path).output text = .ok out ↔
    ∃ doc matched, Json.readText? text = some doc ∧ path.run doc = matched.map .string ∧
      out = Text.joined "\n" matched := by
  constructor
  · intro h
    unfold Projection.output at h
    dsimp only at h
    split at h
    · cases h
    · rename_i doc hd
      cases hs : Projection.strings (path.run doc) with
      | error e =>
        rw [hs] at h
        cases h
      | ok matched =>
        rw [hs] at h
        cases h
        exact ⟨doc, matched, hd, eq_map_of_strings hs, rfl⟩
  · rintro ⟨doc, matched, hd, hm, rfl⟩
    simp only [Projection.output, hd, hm, strings_map]
    rfl

/-- What a line that is not blank comes to. -/
theorem project_eq_ok_iff {o : Option String} (hb : allBlank (Projection.lineText raw) = false) :
    (Projection.select path).project raw = .ok o ↔ ∃ matched, Chooses path raw matched ∧
      o = if Text.joined "\n" matched = "" then none else some (Text.joined "\n" matched) := by
  have hp : (Projection.select path).project raw =
      ((Projection.select path).output (Projection.lineText raw)).map
        fun out => if out = "" then none else some out := by
    simp [Projection.project, hb]
  rw [hp]
  constructor
  · intro h
    cases ho : (Projection.select path).output (Projection.lineText raw) with
    | error e =>
      rw [ho] at h
      cases h
    | ok out =>
      obtain ⟨doc, matched, hd, hm, rfl⟩ := output_eq_ok_iff.mp ho
      rw [ho] at h
      cases h
      exact ⟨matched, ⟨hb, doc, hd, hm⟩, rfl⟩
  · rintro ⟨matched, ⟨-, doc, hd, hm⟩, rfl⟩
    rw [output_eq_ok_iff.mpr ⟨doc, matched, hd, hm, rfl⟩]
    rfl

/-- Strings join to nothing only if there are none, or one that is empty. -/
theorem joined_eq_empty_iff : ∀ {ss : List String}, Text.joined "\n" ss = "" ↔ ss = [] ∨ ss = [""]
  | [] => by simp [Text.joined]
  | [s] => by simp [Text.joined]
  | s :: t :: ss => by simp [Text.joined]

theorem joined_ne_empty_iff {ss : List String} :
    Text.joined "\n" ss ≠ "" ↔ (∃ s ∈ ss, s ≠ "") ∨ 2 ≤ ss.length := by
  rw [Ne, joined_eq_empty_iff]
  match ss with
  | [] => simp
  | [s] => simp
  | s :: t :: ss => simp

theorem project_eq_some_iff {out : String} : (Projection.select path).project raw = .ok (some out) ↔
    ∃ matched, Chooses path raw matched ∧ ((∃ s ∈ matched, s ≠ "") ∨ 2 ≤ matched.length) ∧
      out = Text.joined "\n" matched := by
  cases hb : allBlank (Projection.lineText raw) with
  | true => simp [Projection.project, Chooses, hb]
  | false =>
    rw [project_eq_ok_iff hb]
    refine exists_congr fun matched => and_congr_right fun _ => ?_
    rw [← joined_ne_empty_iff]
    by_cases hj : Text.joined "\n" matched = "" <;> simp [hj]

theorem project_eq_none_iff : (Projection.select path).project raw = .ok none ↔ Idle path raw := by
  cases hb : allBlank (Projection.lineText raw) with
  | true => simp [Projection.project, Idle, hb]
  | false =>
    rw [project_eq_ok_iff hb, Idle, hb, or_iff_right Bool.false_ne_true]
    refine exists_congr fun matched => and_congr_right fun _ => ?_
    rw [← joined_eq_empty_iff]
    by_cases hj : Text.joined "\n" matched = "" <;> simp [hj]

/-! ### The lines of a body -/

theorem silent_results_iff : Silent (results p stream) ↔
    failureIn stream = none ∧ ∀ line ∈ bodyLines stream, p.project line = .ok none := by
  rw [Silent, results, List.forall_mem_append, List.forall_mem_map, and_comm]
  refine and_congr_left' ?_
  cases failureIn stream <;> simp

theorem mem_results {x : Result} (h : x ∈ results p stream) :
    (∃ line ∈ bodyLines stream, p.project line = x) ∨ ∃ detail, x = .error (.read detail) := by
  rcases List.mem_append.mp h with hm | hm
  · exact .inl (List.mem_map.mp hm)
  · obtain ⟨detail, -, hd⟩ := List.mem_map.mp hm
    exact .inr ⟨detail, hd.symm⟩

theorem noLogs_not_mem_results : .error .noLogs ∉ results p stream := by
  intro hm
  rcases mem_results hm with ⟨line, -, hp⟩ | ⟨detail, hd⟩
  · rcases error_of_project hp with ⟨detail, hd⟩ | ⟨value, hv⟩
    · cases hd
    · cases hv
  · cases hd

/-- There are no logs exactly if no result is an output or an error. -/
theorem streamLogs_eq_noLogs_iff :
    streamLogs p stream = .error .noLogs ↔ Silent (results p stream) := by
  refine ⟨fun h => ?_, streamLogs_silent⟩
  rcases silent_prefix (results p stream) with hs | ⟨silent, x, rest, hx, hs, ⟨e, rfl⟩ | ⟨out, rfl⟩⟩
  · exact hs
  · rw [streamLogs_silent_error hs hx] at h
    cases h
    have hm : .error .noLogs ∈ results p stream := by
      rw [hx]
      exact List.mem_append_right _ List.mem_cons_self
    exact absurd hm noLogs_not_mem_results
  · rw [streamLogs_silent_some hs hx] at h
    cases h

/-- A success is due to a line with output. -/
theorem exists_output_of_ok {response : Response} (h : streamLogs p stream = .ok response) :
    ∃ line ∈ bodyLines stream, ∃ out, p.project line = .ok (some out) := by
  rcases silent_prefix (results p stream) with hs | ⟨silent, x, rest, hx, hs, ⟨e, rfl⟩ | ⟨out, rfl⟩⟩
  · rw [streamLogs_silent hs] at h
    cases h
  · rw [streamLogs_silent_error hs hx] at h
    cases h
  · have hm : .ok (some out) ∈ results p stream := by
      rw [hx]
      exact List.mem_append_right _ List.mem_cons_self
    rcases mem_results hm with ⟨line, hl, hp⟩ | ⟨detail, hd⟩
    · exact ⟨line, hl, out, hp⟩
    · cases hd

/-- What matches are worth. -/
structure Worth (path : Path.Query) : Prop where
  output : ∀ raw out, (Projection.select path).project raw = .ok (some out) ↔
    ∃ matched, Chooses path raw matched ∧ ((∃ s ∈ matched, s ≠ "") ∨ 2 ≤ matched.length) ∧
      out = Text.joined "\n" matched
  nothing : ∀ raw, (Projection.select path).project raw = .ok none ↔ Idle path raw
  noLogs : ∀ stream, streamLogs (.select path) stream = .error .noLogs ↔
    failureIn stream = none ∧ ∀ line ∈ bodyLines stream, Idle path line
  uncommitted : ∀ stream, (∀ line ∈ bodyLines stream, Idle path line) →
    ∀ response, streamLogs (.select path) stream ≠ .ok response

/-- **An empty match alone is nothing**: a line contributes output exactly if a match on it is not
empty or there are several; and a body of which no line does so has no logs and is never answered
with a success. -/
theorem nothing_of_lone_empty_match (path : Path.Query) : Worth path where
  output _ _ := project_eq_some_iff
  nothing _ := project_eq_none_iff
  noLogs stream := by
    rw [streamLogs_eq_noLogs_iff, silent_results_iff]
    simp only [project_eq_none_iff]
  uncommitted stream hi response h := by
    obtain ⟨line, hl, out, ho⟩ := exists_output_of_ok h
    rw [project_eq_none_iff.mpr (hi line hl)] at ho
    cases ho

/-- All items. -/
def items : Path.Query := .mk true [.children [.wildcard]]

/-- A line with two empty items. -/
def twoEmpty : Bytes := utf8Bytes "[\"\",\"\"]"

/-- Two empty matches are output, and a body of such a line is answered with a success. -/
theorem committed_twoEmpty : Projection.compile (some "$[*]") = .ok (.select items) ∧
    Chooses items twoEmpty ["", ""] ∧ (Projection.select items).project twoEmpty = .ok (some "\n") ∧
    streamLogs (.select items) [.chunk twoEmpty] =
      .ok ⟨200, some "text/plain; charset=utf-8", [utf8Bytes "\n\n"]⟩ := by
  have hc : Projection.compile (some "$[*]") = .ok (.select items) := rfl
  have hm : Chooses items twoEmpty ["", ""] := by
    have hr : ((Json.readText? (Projection.lineText twoEmpty)).map fun doc =>
        (Projection.strings (items.run doc)).toOption) = some (some ["", ""]) := by decide +kernel
    obtain ⟨doc, hd, hs⟩ := Option.map_eq_some_iff.mp hr
    refine ⟨by decide +kernel, doc, hd, eq_map_of_strings ?_⟩
    cases ho : Projection.strings (items.run doc) with
    | error e => simp [ho, Except.toOption] at hs
    | ok ss => simpa [ho, Except.toOption] using hs
  have hp : (Projection.select items).project twoEmpty = .ok (some "\n") :=
    project_eq_some_iff.mpr ⟨_, hm, .inr (Nat.le_refl 2), by decide⟩
  have hr : results (.select items) [.chunk twoEmpty] = [] ++ .ok (some "\n") :: [] := by
    have hb : bodyLines [.chunk twoEmpty] = [twoEmpty] := by decide +kernel
    rw [results, hb, List.map_singleton, hp]
    rfl
  refine ⟨hc, hm, hp, (streamLogs_silent_some silent_nil hr).trans ?_⟩
  rw [hr]
  rfl

end ClusterArchive.Proofs.Log.EmptyMatches
