import ClusterArchive.Proofs.Log.Answer

/-! # The outcome of a retrieval

A retrieval is refused for its URL, then for its path expression, then for its headers; what is left
goes out as one request, whose exchange decides the answer. `Retrieved` and `Concluded` say this
rule by rule, each rule with the whole of its condition, and a retrieval is what the rules say and
nothing else (`retrieved_iff`). The network plays no part beyond the exchange of the request that is
sent (`retrieve_congr`). An error is either one of the proxy's own, whose statuses are fixed, or
that of a backend that has not reported success (`told_of_retrieved`), so no failure looks like a
success to the client (`retrieval_concludes`). -/

namespace ClusterArchive.Proofs.Log.Outcome

open ClusterArchive.Log ClusterArchive.Proofs.Log.Answer
open ClusterArchive.Http (Response)

/-! ### The rules of a retrieval -/

/-- The path expression of a query without blanks around it, empty if there is none. -/
def expression (q : Query) : List Char := (q.path.map fun path => Text.trim path.toList).getD []

/-- What an expression compiles to. -/
inductive Compiles (text : List Char) : Projection → Prop
  | passthrough (h : text = []) : Compiles text .passthrough
  | select {path : Path.Query} (hn : text ≠ []) (h : Path.Query.read? text = some path) :
    Compiles text (.select path)

/-- What the exchange of a request comes to. -/
inductive Concluded (projection : Projection) : Exchange → Except Error Response → Prop
  | timedOut : Concluded projection .timedOut (.error .timeout)
  | failed (detail : String) : Concluded projection (.failed detail) (.error (.transport detail))
  | refused {status : Nat} (body : List Arrival) (h : status < 200 ∨ 300 ≤ status) :
    Concluded projection (.answered status body) (.error (.backend status (errorBody body)))
  | streamed {status : Nat} (body : List Arrival) (hl : 200 ≤ status) (hu : status < 300) :
    Concluded projection (.answered status body) (streamLogs projection body)

/-- What comes of a query. -/
inductive Retrieved (p : Proxy) (network : Network) (q : Query) : Retrieval → Prop
  | missingUrl (h : q.url = none ∨ q.url = some "") :
    Retrieved p network q ⟨none, .error .missingUrl⟩
  | invalidProjection {url : String} (hu : q.url = some url) (hn : url ≠ "")
    (he : expression q ≠ []) (hr : Path.Query.read? (expression q) = none) :
    Retrieved p network q ⟨none,
      .error (.invalidProjection (String.ofList (expression q)) Text.withheld)⟩
  | unsendable {url : String} {projection : Projection} (hu : q.url = some url) (hn : url ≠ "")
      (hc : Compiles (expression q) projection) (hs : Proxy.sendable q.headers = false) :
    Retrieved p network q ⟨none, .error (.transport Text.withheld)⟩
  | sent {url : String} {projection : Projection} {answer : Except Error Response}
    (hu : q.url = some url) (hn : url ≠ "") (hc : Compiles (expression q) projection)
    (hs : Proxy.sendable q.headers = true)
    (ha : Concluded projection (network (p.outgoing url q.headers)) answer) :
    Retrieved p network q ⟨some (p.outgoing url q.headers), answer⟩

variable {p : Proxy} {network : Network} {q : Query}

/-! ### The rules decide -/

/-- Compiling reads the expression without blanks around it. -/
theorem compile_eq (q : Query) :
    Projection.compile q.path =
      if expression q = [] then .ok .passthrough
      else
        match Path.Query.read? (expression q) with
        | some path => .ok (.select path)
        | none => .error (.invalidProjection (String.ofList (expression q)) Text.withheld) := by
  unfold Projection.compile expression
  split
  · rename_i ht
    rw [ht, Option.getD_none, if_pos rfl]
  · rename_i ht
    rw [ht, Option.getD_some, if_pos rfl]
  · rename_i text hn ht
    cases hp : Path.Query.read? text <;> simp only [ht, Option.getD_some, if_neg hn, hp]

theorem compile_of_compiles {projection : Projection} (h : Compiles (expression q) projection) :
    Projection.compile q.path = .ok projection := by
  rw [compile_eq]
  cases h with
  | passthrough h => rw [if_pos h]
  | select hn h => rw [if_neg hn, h]

theorem compiles_or_invalid (q : Query) : (∃ projection, Compiles (expression q) projection) ∨
    (expression q ≠ [] ∧ Path.Query.read? (expression q) = none) := by
  by_cases hn : expression q = []
  · exact .inl ⟨_, .passthrough hn⟩
  · cases hr : Path.Query.read? (expression q) with
    | none => exact .inr ⟨hn, rfl⟩
    | some path => exact .inl ⟨_, .select hn hr⟩

theorem isSuccess_iff {status : Nat} : isSuccess status = true ↔ 200 ≤ status ∧ status < 300 := by
  simp [isSuccess]

theorem concluded_iff {projection : Projection} {exchange : Exchange}
    {answer : Except Error Response} :
    Concluded projection exchange answer ↔ answer = conclude projection exchange := by
  constructor
  · rintro (_ | _ | ⟨body, h⟩ | ⟨body, hl, hu⟩)
    · rfl
    · rfl
    · rw [conclude, if_neg (by rw [isSuccess_iff]; omega)]
    · rw [conclude, if_pos (isSuccess_iff.mpr ⟨hl, hu⟩)]
  · rintro rfl
    cases exchange with
    | timedOut => exact .timedOut
    | failed detail => exact .failed detail
    | answered status body =>
      rw [conclude]
      split
      · rename_i hs
        obtain ⟨hl, hu⟩ := isSuccess_iff.mp hs
        exact .streamed body hl hu
      · rename_i hs
        rw [isSuccess_iff] at hs
        exact .refused body (by omega)

/-- The retrieval of a query with a URL. -/
theorem retrieve_of_url {url : String} (hu : q.url = some url) (hn : url ≠ "") :
    p.retrieve network q =
      match Projection.compile q.path with
      | .error e => ⟨none, .error e⟩
      | .ok projection =>
        if Proxy.sendable q.headers then
          ⟨some (p.outgoing url q.headers),
            conclude projection (network (p.outgoing url q.headers))⟩
        else ⟨none, .error (.transport Text.withheld)⟩ := by
  unfold Proxy.retrieve
  rw [hu]
  split
  · rename_i h
    cases h
  · rename_i h
    exact absurd (Option.some.inj h) hn
  · rename_i h
    cases h
    rfl

theorem retrieve_of_no_url (h : q.url = none ∨ q.url = some "") :
    p.retrieve network q = ⟨none, .error .missingUrl⟩ := by
  unfold Proxy.retrieve
  rcases h with h | h
  · rw [h]
  · simp [h]

theorem eq_retrieve_of_retrieved {x : Retrieval} (h : Retrieved p network q x) :
    x = p.retrieve network q := by
  cases h with
  | missingUrl h => rw [retrieve_of_no_url h]
  | invalidProjection hu hn he hr => rw [retrieve_of_url hu hn, compile_eq, if_neg he, hr]
  | unsendable hu hn hc hs => simp [retrieve_of_url hu hn, compile_of_compiles hc, hs]
  | sent hu hn hc hs ha =>
    simp [retrieve_of_url hu hn, compile_of_compiles hc, hs, concluded_iff.mp ha]

theorem retrieved_retrieve (p : Proxy) (network : Network) (q : Query) :
    Retrieved p network q (p.retrieve network q) := by
  by_cases hm : q.url = none ∨ q.url = some ""
  · rw [retrieve_of_no_url hm]
    exact .missingUrl hm
  obtain ⟨url, hu⟩ := Option.ne_none_iff_exists'.mp (not_or.mp hm).1
  have hn : url ≠ "" := fun h => hm (.inr (h ▸ hu))
  rcases compiles_or_invalid q with ⟨projection, hc⟩ | ⟨he, hr⟩
  · rw [retrieve_of_url hu hn, compile_of_compiles hc]
    dsimp only
    cases hs : Proxy.sendable q.headers with
    | false => exact .unsendable hu hn hc hs
    | true => exact .sent hu hn hc hs (concluded_iff.mpr rfl)
  · rw [retrieve_of_url hu hn, compile_eq, if_neg he, hr]
    exact .invalidProjection hu hn he hr

/-- A retrieval is what the rules say. -/
theorem retrieved_iff {x : Retrieval} : Retrieved p network q x ↔ x = p.retrieve network q :=
  ⟨eq_retrieve_of_retrieved, fun h => h ▸ retrieved_retrieve p network q⟩

/-! ### One exchange -/

/-- Networks that answer the request that is sent in the same way, if one is sent, make no
difference. -/
theorem retrieve_congr {network' : Network}
    (h : ∀ request, (p.retrieve network q).sent = some request →
      network' request = network request) :
    p.retrieve network' q = p.retrieve network q := by
  have hx := retrieved_retrieve p network q
  generalize p.retrieve network q = x at hx h ⊢
  refine (eq_retrieve_of_retrieved ?_).symm
  cases hx with
  | missingUrl hm => exact .missingUrl hm
  | invalidProjection hu hn he hr => exact .invalidProjection hu hn he hr
  | unsendable hu hn hc hs => exact .unsendable hu hn hc hs
  | sent hu hn hc hs ha => exact .sent hu hn hc hs (h _ rfl ▸ ha)

/-! ### Statuses -/

/-- The errors that are the proxy's own and not those of a backend's answer. -/
def Own : Error → Prop
  | .backend .. => False
  | _ => True

theorem status_of_own {e : Error} (h : Own e) : 400 ≤ e.status := by
  cases e with
  | backend status body => cases h
  | _ => simp [Error.status]

theorem status_of_backend {status : Nat} (body : String) (h : status < 200 ∨ 300 ≤ status) :
    (Error.backend status body).status < 200 ∨ 300 ≤ (Error.backend status body).status := by
  simp only [Error.status]
  split
  · exact h
  · exact .inr (by decide)

theorem own_of_project {projection : Projection} {raw : Bytes} {e : Error}
    (h : projection.project raw = .error e) : Own e := by
  rcases error_of_project h with ⟨detail, rfl⟩ | ⟨value, rfl⟩ <;> trivial

theorem own_of_streamLogs {projection : Projection} {stream : List Arrival} {e : Error}
    (h : streamLogs projection stream = .error e) : Own e := by
  rcases silent_prefix (results projection stream) with hs |
    ⟨silent, x, rest, hx, hs, ⟨e', rfl⟩ | ⟨out, rfl⟩⟩
  · rw [streamLogs_silent hs] at h
    cases h
    trivial
  · rw [streamLogs_silent_error hs hx] at h
    cases h
    -- the error is that of a line or the failure of the stream
    have hm : .error e ∈ results projection stream := by
      rw [hx]
      exact List.mem_append_right _ List.mem_cons_self
    rcases List.mem_append.mp hm with hm | hm
    · obtain ⟨raw, -, hp⟩ := List.mem_map.mp hm
      exact own_of_project hp
    · obtain ⟨detail, -, hd⟩ := List.mem_map.mp hm
      cases hd
      trivial
  · rw [streamLogs_silent_some hs hx] at h
    cases h

theorem status_of_streamLogs {projection : Projection} {stream : List Arrival} {response : Response}
    (h : streamLogs projection stream = .ok response) : response.status = 200 := by
  unfold streamLogs at h
  split at h
  · cases h
  · cases h
    rfl

/-- Whether the status of an answer tells a success from a failure. -/
def Told : Except Error Response → Prop
  | .ok response => response.status = 200
  | .error e => e.response.status < 200 ∨ 300 ≤ e.response.status

theorem told_of_own {e : Error} (h : Own e) : Told (.error e) :=
  .inr (Nat.le_trans (by decide) (status_of_own h))

theorem told_of_concluded {projection : Projection} {exchange : Exchange}
    {answer : Except Error Response} (h : Concluded projection exchange answer) : Told answer := by
  cases h with
  | timedOut => exact told_of_own trivial
  | failed detail => exact told_of_own trivial
  | refused body h => exact status_of_backend (errorBody body) h
  | streamed body hl hu =>
    cases hs : streamLogs projection body with
    | error e => exact told_of_own (own_of_streamLogs hs)
    | ok response => exact status_of_streamLogs hs

theorem told_of_retrieved {x : Retrieval} (h : Retrieved p network q x) : Told x.answer := by
  cases h with
  | missingUrl h => exact told_of_own trivial
  | invalidProjection hu hn he hr => exact told_of_own trivial
  | unsendable hu hn hc hs => exact told_of_own trivial
  | sent hu hn hc hs ha => exact told_of_concluded ha

/-- How a retrieval ends. -/
structure Settled (p : Proxy) (network : Network) (q : Query) : Prop where
  /-- It is what the rules say, and nothing else. -/
  rules : ∀ x, Retrieved p network q x ↔ x = p.retrieve network q
  /-- The network is asked for the request that is sent, and for no other. -/
  asked : ∀ network' : Network,
    (∀ request, (p.retrieve network q).sent = some request → network' request = network request) →
      p.retrieve network' q = p.retrieve network q
  /-- No error is reported as a success. -/
  failure : ∀ e, (p.retrieve network q).answer = .error e → e.response.status < 200 ∨
    300 ≤ e.response.status
  success : ∀ response, (p.retrieve network q).answer = .ok response → response.status = 200

/-- **A retrieval ends as the rules say**, with one request at most, and its status tells whether it
has failed. -/
theorem retrieval_concludes (p : Proxy) (network : Network) (q : Query) : Settled p network q := by
  have ht := told_of_retrieved (retrieved_retrieve p network q)
  refine ⟨fun x => retrieved_iff, fun network' h => retrieve_congr h, fun e he => ?_,
    fun response hr => ?_⟩
  · rwa [he] at ht
  · rwa [hr] at ht

end ClusterArchive.Proofs.Log.Outcome
