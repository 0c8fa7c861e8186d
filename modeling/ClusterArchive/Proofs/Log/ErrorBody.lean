import ClusterArchive.Log.Service
import ClusterArchive.Proofs.Log.Outcome

/-! # The body of a backend's error

A body `Delivers` the bytes of its chunks up to its end or to a failure. The loop that reads the
body of an error takes whole chunks and looks only at how much it has, so it may take more than the
limit; what it has is always a beginning of the bytes delivered, and it stops early only with enough
of them (`take_gather`). So exactly the first `errorBodyLimit` bytes are kept, wherever the chunks
end and whatever comes of the body behind them (`errorBody_eq`). A failure of the body plays no part
in the status: that of the backend goes into the error before the body is read
(`error_body_kept`). -/

namespace ClusterArchive.Proofs.Log.ErrorBody

open ClusterArchive.Log ClusterArchive.Proofs.Log.Reading ClusterArchive.Proofs.Log.Outcome

/-! ### What a body delivers -/

/-- What a body delivers: the bytes of its chunks up to its end, or up to a failure. -/
inductive Delivers : List Arrival → Bytes → Prop
  | ended (chunks : List Bytes) : Delivers (chunks.map .chunk) chunks.flatten
  | failed (chunks : List Bytes) (detail : String) (later : List Arrival) :
    Delivers (chunks.map .chunk ++ .failure detail :: later) chunks.flatten

variable {body : List Arrival} {bytes : Bytes}

theorem Delivers.cons (chunk : Bytes) (h : Delivers body bytes) :
    Delivers (.chunk chunk :: body) (chunk ++ bytes) := by
  cases h with
  | ended chunks => exact .ended (chunk :: chunks)
  | failed chunks detail later => exact .failed (chunk :: chunks) detail later

theorem delivers_delivered : ∀ body : List Arrival, Delivers body (delivered body)
  | [] => .ended []
  | .failure detail :: later => .failed [] detail later
  | .chunk chunk :: rest => (delivers_delivered rest).cons chunk

theorem Delivers.eq_delivered (h : Delivers body bytes) : bytes = delivered body := by
  cases h with
  | ended chunks => rw [delivered_chunks]
  | failed chunks detail later => simp [delivered_chunks_append, delivered]

/-! ### The loop -/

variable {limit : Nat} {buffer : Bytes}

theorem gather_of_le (h : limit ≤ buffer.length) (body : List Arrival) :
    gather limit buffer body = buffer := by
  unfold gather
  rw [if_neg (Nat.not_lt.mpr h)]

theorem gather_chunk (h : buffer.length < limit) (chunk : Bytes) (rest : List Arrival) :
    gather limit buffer (.chunk chunk :: rest) = gather limit (buffer ++ chunk) rest := by
  rw [gather, if_pos h]

theorem gather_failure (detail : String) (later : List Arrival) :
    gather limit buffer (.failure detail :: later) = buffer := by
  unfold gather
  split <;> rfl

/-- The first bytes of what the loop takes are those of what it had and what was to come. -/
theorem take_gather (limit : Nat) (body : List Arrival) (buffer : Bytes) :
    (gather limit buffer body).take limit = (buffer ++ delivered body).take limit := by
  -- by induction on the body, with a buffer that grows by every chunk taken
  induction body generalizing buffer with
  | nil => simp [gather, delivered]
  | cons arrival rest ih =>
    by_cases hb : buffer.length < limit
    · cases arrival with
      | chunk chunk => rw [gather_chunk hb, ih, delivered, List.append_assoc]
      | failure detail => simp [gather_failure, delivered]
    · -- what is to come lies behind the limit
      have hl : limit ≤ buffer.length := Nat.le_of_not_lt hb
      rw [gather_of_le hl, List.take_append_of_le_length hl]

theorem beginning_eq (limit : Nat) (h : Delivers body bytes) :
    beginning limit body = bytes.take limit := by
  have ht := take_gather limit body []
  rw [List.nil_append, ← h.eq_delivered] at ht
  exact ht

theorem errorBody_eq (h : Delivers body bytes) :
    errorBody body = String.ofList (Utf8.lossy (bytes.take errorBodyLimit)) := by
  rw [errorBody, beginning_eq errorBodyLimit h]

/-! ### The error -/

variable {p : Proxy} {network : Network} {q : Query}

/-- A backend's error is due to an exchange in which a backend has not reported success. -/
theorem exchange_of_backend {x : Retrieval} {status : Nat} {text : String}
    (h : Retrieved p network q x) (ha : x.answer = .error (.backend status text)) :
    ∃ request body, x.sent = some request ∧ network request = .answered status body ∧
      (status < 200 ∨ 300 ≤ status) ∧ text = errorBody body := by
  cases h with
  | missingUrl _ => cases ha
  | invalidProjection _ _ _ _ => cases ha
  | unsendable _ _ _ _ => cases ha
  | sent hu hn hc hs hx =>
    generalize he : network _ = exchange at hx
    cases hx with
    | timedOut => cases ha
    | failed detail => cases ha
    | refused body hr =>
      cases ha
      exact ⟨_, body, rfl, he, hr, rfl⟩
    | streamed body _ _ =>
      -- errors of a body that is streamed are the proxy's own
      have ho : Own (.backend status text) := own_of_streamLogs ha
      cases ho

theorem answer_of_exchange {request : Outgoing} {status : Nat}
    (hs : (p.retrieve network q).sent = some request) (hn : network request = .answered status body)
    (hr : status < 200 ∨ 300 ≤ status) :
    (p.retrieve network q).answer = .error (.backend status (errorBody body)) := by
  have hx := retrieved_retrieve p network q
  generalize p.retrieve network q = x at hx hs ⊢
  cases hx with
  | missingUrl _ => cases hs
  | invalidProjection _ _ _ _ => cases hs
  | unsendable _ _ _ _ => cases hs
  | sent _ _ _ _ ha =>
    cases hs
    rw [hn] at ha
    cases ha with
    | refused _ _ => rfl
    | streamed _ hl hu => omega

/-- What becomes of a backend's error. -/
structure Kept (p : Proxy) (network : Network) (q : Query) : Prop where
  /-- The answer is a backend's error exactly if a backend was asked and has not reported success;
  its text is that of the first bytes that the body delivers. -/
  told : ∀ status text, (p.retrieve network q).answer = .error (.backend status text) ↔
    ∃ request body bytes, (p.retrieve network q).sent = some request ∧
      network request = .answered status body ∧ (status < 200 ∨ 300 ≤ status) ∧
      Delivers body bytes ∧ text = String.ofList (Utf8.lossy (bytes.take errorBodyLimit))
  /-- The client that has sent the query gets the status of the backend, with that text. -/
  relayed : ∀ query : List Char, Query.ofFields? (Http.Form.fields query) = some q → ∀ status text,
    (p.retrieve network q).answer = .error (.backend status text) → 100 ≤ status → status ≤ 999 →
      answerLogs p network query =
        .text status ("error response: " ++ toString status ++ " - " ++ text)

theorem answerLogs_of_error {query : List Char} {e : Error}
    (hq : Query.ofFields? (Http.Form.fields query) = some q)
    (he : (p.retrieve network q).answer = .error e) : answerLogs p network query = e.response := by
  unfold answerLogs
  rw [hq]
  dsimp only
  rw [he]

theorem response_backend {status : Nat} (hl : 100 ≤ status) (hu : status ≤ 999) (text : String) :
    (Error.backend status text).response =
      .text status ("error response: " ++ toString status ++ " - " ++ text) := by
  have hs : (Error.backend status text).status = status := if_pos ⟨hl, hu⟩
  have hm : (Error.backend status text).message =
    "error response: " ++ toString status ++ " - " ++ text := rfl
  rw [Error.response, hs, hm]

/-- **The first bytes of a backend's error are kept**, and its status with them, however the body
arrives. -/
theorem error_body_kept (p : Proxy) (network : Network) (q : Query) : Kept p network q where
  told status text := by
    constructor
    · intro h
      obtain ⟨request, body, hs, hn, hr, rfl⟩ :=
        exchange_of_backend (retrieved_retrieve p network q) h
      have hd := delivers_delivered body
      exact ⟨request, body, _, hs, hn, hr, hd, errorBody_eq hd⟩
    · rintro ⟨request, body, bytes, hs, hn, hr, hd, rfl⟩
      rw [answer_of_exchange hs hn hr, errorBody_eq hd]
  relayed query hq status text ha hl hu := by
    rw [answerLogs_of_error hq ha, response_backend hl hu]

/-- Chunks of a body whose 1024th byte is the first one of a character of two. -/
def longChunks : List Bytes :=
  [List.replicate 1000 0x61, List.replicate 23 0x61 ++ [0xC3], [0xA9, 0x0A]]

theorem kept_longChunks :
    (Proxy.retrieve ⟨[]⟩
      (fun _ => .answered 503 (longChunks.map .chunk ++ [.failure "connection reset"]))
      ⟨some "http://backend", none, []⟩).answer =
      .error (.backend 503 (String.ofList (List.replicate 1023 'a' ++ ['\uFFFD']))) := by
  have hs : (Proxy.retrieve ⟨[]⟩ (fun _ => .answered 503 (longChunks.map .chunk ++
      [.failure "connection reset"])) ⟨some "http://backend", none, []⟩).sent =
      some ⟨"http://backend", []⟩ := by decide +kernel
  have hd : Delivers (longChunks.map .chunk ++ [.failure "connection reset"]) longChunks.flatten :=
    .failed longChunks "connection reset" []
  have ht : String.ofList (List.replicate 1023 'a' ++ ['\uFFFD']) =
      String.ofList (Utf8.lossy (longChunks.flatten.take errorBodyLimit)) := by decide +kernel
  exact ((error_body_kept _ _ _).told 503 _).mpr ⟨_, _, _, hs, rfl, .inr (by decide), hd, ht⟩

end ClusterArchive.Proofs.Log.ErrorBody
