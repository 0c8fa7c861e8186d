import ClusterArchive.Proofs.Json.RoundTrip
import ClusterArchive.Proofs.Text.Spelling
import ClusterArchive.Sink.Processing

/-! # The modes of an event agree

In structured mode the data of an event is read as a value, written down again as the payload, and
read once more when the event is processed. Nothing is lost on the way: the data nests within the
event, so it has more room where it stands alone, and its text is read as the value
(`readBytes?_payload`). Any value that fits can be sent so (`accepted_eventBody`). So the event is
treated like one in binary mode that holds the same value in whatever notation (`modes_agree`). -/

namespace ClusterArchive.Proofs.Sink.Modes

open ClusterArchive.Sink ClusterArchive.Json
open ClusterArchive.Proofs.Json.Canonical ClusterArchive.Proofs.Json.RoundTrip

variable {headers : Http.Headers} {body : Bytes} {e : Envelope} {v : Value}

/-- Whether a request is in structured mode. -/
def IsStructured (headers : Http.Headers) : Prop :=
  (headers.text? "content-type").any (·.startsWith structuredType) = true

/-- Whether a body in structured mode holds an event with a value as its data. -/
def HasData (body : Bytes) (v : Value) : Prop :=
  ∃ event rest, Structured.event (Utf8.scalars body) = some (event, rest) ∧ event.data.join = some v

/-! ### The data of an event -/

/-- Whether the data of an event, as far as it has been read, fits within the event. -/
def DataFits (event : Structured.Event) : Prop :=
  ∀ v, event.data.join = some v → Fits Structured.memberDepth v

theorem fits_of_optional {input : Input} {r : Option Value × Input}
    (h : Structured.optional input = some r) (hv : r.1 = some v) :
    Fits Structured.memberDepth v := by
  obtain ⟨⟨w, rest⟩, hr, rfl⟩ := Option.map_eq_some_iff.mp h
  have hf := fits_of_read hr
  dsimp only at hv hf
  split at hv
  · cases hv
  · cases hv
    exact hf

theorem dataFits_member {event : Structured.Event} {name : String} {input : Input}
    {r : Structured.Event × Input} (h : DataFits event)
    (hr : Structured.member event name input = some r) : DataFits r.1 := by
  unfold Structured.member at hr
  split at hr
  · split at hr
    · cases hr
    obtain ⟨q, -, rfl⟩ := Option.map_eq_some_iff.mp hr
    exact h
  · split at hr
    · cases hr
    obtain ⟨q, -, rfl⟩ := Option.map_eq_some_iff.mp hr
    exact h
  · split at hr
    · cases hr
    obtain ⟨q, hq, rfl⟩ := Option.map_eq_some_iff.mp hr
    exact fun v hv => fits_of_optional hq hv
  · obtain ⟨q, -, rfl⟩ := Option.map_eq_some_iff.mp hr
    exact h

theorem dataFits_membersFrom : ∀ {count : Nat} {event : Structured.Event} {input : Input}
    {r : Structured.Event × Input},
      DataFits event → Structured.membersFrom count event input = some r →
      DataFits r.1
  | 0, _, _, _, _, hr => by cases hr
  | count + 1, event, input, r, h, hr => by
    unfold Structured.membersFrom at hr
    split at hr
    · cases hr
    split at hr
    · cases hr
    rename_i hm
    have h' := dataFits_member h hm
    split at hr
    · exact dataFits_membersFrom h' hr
    · cases hr
      exact h'
    · cases hr

theorem dataFits_items {input : Input} {r : Structured.Event × Input}
    (hr : Structured.items input = some r) :
    DataFits r.1 := by
  have hn : ∀ id contentType, DataFits ⟨id, contentType, none⟩ := fun _ _ v hv => by cases hv
  unfold Structured.items at hr
  obtain ⟨⟨id, rest⟩, -, hr⟩ := Option.bind_eq_some_iff.mp hr
  obtain ⟨⟨more, rest⟩, -, hr⟩ := Option.bind_eq_some_iff.mp hr
  cases more with
  | false =>
    cases hr
    exact hn _ _
  | true =>
    obtain ⟨⟨contentType, rest⟩, -, hr⟩ := Option.bind_eq_some_iff.mp hr
    obtain ⟨⟨more, rest⟩, -, hr⟩ := Option.bind_eq_some_iff.mp hr
    cases more with
    | false =>
      cases hr
      exact hn _ _
    | true =>
      obtain ⟨⟨data, rest⟩, hd, hr⟩ := Option.bind_eq_some_iff.mp hr
      obtain ⟨⟨more, rest⟩, -, hr⟩ := Option.bind_eq_some_iff.mp hr
      cases more with
      | false =>
        cases hr
        exact fun v hv => fits_of_optional hd hv
      | true => cases hr

theorem dataFits_event {input : Input} {r : Structured.Event × Input}
    (hr : Structured.event input = some r) :
    DataFits r.1 := by
  have hn : DataFits ⟨none, none, none⟩ := fun v hv => by cases hv
  unfold Structured.event at hr
  split at hr
  · split at hr
    · cases hr
      exact hn
    · exact dataFits_membersFrom hn hr
  · exact dataFits_items hr
  · cases hr

theorem HasData.fits (h : HasData body v) : Fits Structured.memberDepth v := by
  obtain ⟨event, rest, he, hv⟩ := h
  exact dataFits_event he v hv

/-! ### The payload -/

theorem payload_eq (hs : IsStructured headers) (ha : Envelope.ofRequest headers body = .ok e)
    (hv : HasData body v) : e.payload = Structured.payloadOf v := by
  obtain ⟨event, rest, he, hd⟩ := hv
  unfold IsStructured at hs
  simp only [Envelope.ofRequest, if_pos hs, Structured.envelope, he] at ha
  split at ha
  · unfold Structured.Event.envelope at ha
    rw [hd] at ha
    split at ha
    · cases ha
    · rename_i h'
      cases h'
    · rename_i h'
      cases h'
      cases ha
      rfl
  · cases ha

/-- The payload for a value that is no text is read as the value. -/
theorem readBytes?_payload (hv : HasData body v) (hw : Whole v) (hn : ∀ s, v ≠ .string s) :
    Json.readBytes? (Structured.payloadOf v) = some v := by
  have hp : Structured.payloadOf v = utf8Bytes v.render := by
    unfold Structured.payloadOf
    split
    · rename_i s
      exact absurd rfl (hn s)
    · rfl
  rw [hp, utf8Bytes, Value.render, String.toList_ofList, Json.readBytes?,
    Text.Spelling.scalars_encode]
  exact readText?_text hv.fits (by decide) hw

/-! ### Every value can be sent -/

/-- The text of an event with an id and data. -/
def eventText (id : String) (v : Value) : List Char :=
  (Value.object [("data", v), ("id", .string id)]).text

theorem value_text {depth : Nat} (hf : Fits depth v) (hw : Whole v) {rest : Input}
    (hr : Stops rest) :
    Json.value depth (v.text.map some ++ rest) = some (v, rest) :=
  read_text hf hw _ _ (by simp only [budget, List.length_append, List.length_map]; omega) hr

theorem optional_text (hf : Fits Structured.memberDepth v) (hw : Whole v) (hn : v ≠ .null)
    {rest : Input} (hr : Stops rest) :
    Structured.optional (v.text.map some ++ rest) = some (some v, rest) := by
  rw [Structured.optional, value_text hf hw hr]
  cases v with
  | null => exact absurd rfl hn
  | _ => rfl

theorem text_quoted (s : String) {rest : Input} (hr : Stops rest) :
    Structured.text ((Value.string s).text.map some ++ rest) = some (s, rest) := by
  rw [Structured.text, value_text (.string _ s) (.string s) hr]
  rfl

theorem membersFrom_eventText (id : String) (hf : Fits Structured.memberDepth v) (hw : Whole v)
    (hn : v ≠ .null) (count : Nat) :
    Structured.membersFrom (count + 2) ⟨none, none, none⟩
      ((membersText [("data", v), ("id", .string id)]).map some ++ [some '\x7d']) =
        some (⟨some id, none, some (some v)⟩, []) := by
  have ht : (membersText [("data", v), ("id", .string id)]).map some ++ [some '\x7d'] =
      (quoted "data".toList ++ [':']).map some ++ (v.text.map some ++ some ',' ::
        ((quoted "id".toList ++ [':']).map some ++
          ((Value.string id).text.map some ++ [some '\x7d']))) := by
    simp [membersText]
  have hd := optional_text hf hw hn (.inr ⟨',', (quoted "id".toList ++ [':']).map some ++
    ((Value.string id).text.map some ++ [some '\x7d']), rfl, by decide⟩)
  have hi := text_quoted id (.inr ⟨'\x7d', [], rfl, by decide⟩)
  rw [ht, Structured.membersFrom, memberName_quoted]
  simp only [Structured.member, Option.isSome_none, Bool.false_eq_true, if_false, hd,
    Option.map_some]
  change Structured.membersFrom (count + 1) _ _ = _
  rw [Structured.membersFrom, memberName_quoted]
  simp only [Structured.member, Option.isSome_none, Bool.false_eq_true, if_false, hi,
    Option.map_some]
  rfl

theorem event_eventText (id : String) (hf : Fits Structured.memberDepth v) (hw : Whole v)
    (hn : v ≠ .null) :
    Structured.event ((eventText id v).map some) = some (⟨some id, none, some (some v)⟩, []) := by
  have ht : (eventText id v).map some =
      some '\x7b' ::
      ((membersText [("data", v), ("id", .string id)]).map some ++ [some '\x7d']) := by
    simp [eventText, Value.text]
  obtain ⟨text, hq⟩ := membersText_head (List.cons_ne_nil ("data", v) [("id", Value.string id)])
  have hm := membersFrom_eventText id hf hw hn (text.length + 1)
  rw [ht, Structured.event, skipSpace_of_heads (by decide)]
  rw [hq, List.map_cons, List.cons_append] at hm ⊢
  have hs := skipSpace_of_heads (show '"' ∈ heads by decide) (text.map some ++ [some '\x7d'])
  have hl : (some '"' :: (text.map some ++ [some '\x7d'])).length + 1 = text.length + 1 + 2 := by
    simp
  rw [← hl] at hm
  simp only [hs]
  exact hm

/-- The body of a request that holds an event with an id and data. -/
def eventBody (id : String) (v : Value) : Bytes := Utf8.encode (eventText id v)

/-- A value that fits within an event can be sent in structured mode, if it is not null. -/
theorem accepted_eventBody (hs : IsStructured headers) (id : String)
    (hf : Fits Structured.memberDepth v) (hw : Whole v) (hn : v ≠ .null) :
    HasData (eventBody id v) v ∧
      Envelope.ofRequest headers (eventBody id v) = .ok ⟨id, none, Structured.payloadOf v⟩ := by
  have he : Structured.event (Utf8.scalars (eventBody id v)) =
      some (⟨some id, none, some (some v)⟩, []) := by
    rw [eventBody, Text.Spelling.scalars_encode, event_eventText id hf hw hn]
  refine ⟨⟨_, _, he, rfl⟩, ?_⟩
  unfold IsStructured at hs
  simp only [Envelope.ofRequest, if_pos hs, Structured.envelope, he]
  rfl

/-! ### Treatment -/

/-- Whether the payload of an event is a value in the notation that its content type names. -/
def Notes (e : Envelope) (v : Value) : Prop :=
  (if Resource.namesYaml e.contentType then Yaml.readBytes? e.payload
    else Json.readBytes? e.payload) = some v

theorem decode_of_notes (h : Notes e v) :
    Resource.decode e.contentType e.payload = Resource.ofValue v := by
  unfold Notes at h
  unfold Resource.decode
  split
  · rename_i hy
    rw [if_pos hy] at h
    rw [h]
  · rename_i hy
    rw [if_neg hy] at h
    rw [h]

/-- Whether two events are treated alike: they are the same resource, or fail to be one alike, so
they have the same key and verdicts, and processing makes the same calls and ends in the same
way. -/
structure TreatedAlike (e e' : Envelope) : Prop where
  resource : Resource.decode e.contentType e.payload = Resource.decode e'.contentType e'.payload
  key : (Resource.decode e.contentType e.payload).map archiveKey =
    (Resource.decode e'.contentType e'.payload).map archiveKey
  verdicts : ∀ rules : Policy.RuleSet,
    (Resource.decode e.contentType e.payload).map
    (fun r => (rules.mustArchive (some r), rules.mustDelete (some r))) =
      (Resource.decode e'.contentType e'.payload).map fun r =>
        (rules.mustArchive (some r), rules.mustDelete (some r))
  processed : ∀ rules writer deleter,
    (process rules e writer deleter).outcome = (process rules e' writer deleter).outcome ∧
      (process rules e writer deleter).write.map (·.resource) =
        (process rules e' writer deleter).write.map (·.resource) ∧
      (process rules e writer deleter).delete = (process rules e' writer deleter).delete

theorem treatedAlike_of_decode {e' : Envelope}
    (h : Resource.decode e.contentType e.payload = Resource.decode e'.contentType e'.payload) :
    TreatedAlike e e' := by
  refine ⟨h, by rw [h], fun _ => by rw [h], fun rules writer deleter => ?_⟩
  unfold process
  rw [h]
  split
  · exact ⟨rfl, rfl, rfl⟩
  · split
    · cases writer
      · dsimp only
        split <;> exact ⟨rfl, rfl, rfl⟩
      · exact ⟨rfl, rfl, rfl⟩
      · exact ⟨rfl, rfl, rfl⟩
    · exact ⟨rfl, rfl, rfl⟩

/-- Whether an event holds a value. -/
structure Carries (e : Envelope) (v : Value) : Prop where
  /-- A text is the payload itself. -/
  text : ∀ s, v = .string s → e.payload = utf8Bytes s
  /-- Any other value is read from the payload. -/
  value : (∀ s, v ≠ .string s) → Json.readBytes? e.payload = some v
  /-- What is decoded is the resource that the value is. -/
  decoded : (∀ s, v ≠ .string s) → Resource.namesYaml e.contentType = false →
    Resource.decode e.contentType e.payload = Resource.ofValue v
  /-- The event is treated like any in binary mode that holds the value. -/
  posted : (∀ s, v ≠ .string s) → Resource.namesYaml e.contentType = false → ∀ headers' body' e',
    ¬ IsStructured headers' → Envelope.ofRequest headers' body' = .ok e' → Notes e' v →
    TreatedAlike e e'

/-- **The modes agree**: an event in structured mode holds the value that is its data. -/
theorem modes_agree (hs : IsStructured headers) (ha : Envelope.ofRequest headers body = .ok e)
    (hv : HasData body v) (hw : Whole v) : Carries e v := by
  have hp := payload_eq hs ha hv
  have hr : (∀ s, v ≠ .string s) → Json.readBytes? e.payload = some v := fun hn => by
    rw [hp]
    exact readBytes?_payload hv hw hn
  have hd : (∀ s, v ≠ .string s) → Resource.namesYaml e.contentType = false →
      Resource.decode e.contentType e.payload = Resource.ofValue v := fun hn hy =>
    decode_of_notes (by rw [Notes, hy]; exact hr hn)
  refine ⟨fun s hs' => ?_, hr, hd, fun hn hy _ _ e' _ _ hn' => ?_⟩
  · rw [hp, hs']
    rfl
  · exact treatedAlike_of_decode ((hd hn hy).trans (decode_of_notes hn').symm)

/-- A pod with a name that has to be escaped, and with the greatest and the least number. -/
def extremePod : Value :=
  .object [("apiVersion", .string "v1"), ("kind", .string "Pod"),
    ("metadata", .object [("name", .string "p\x01\"é")]),
    ("spec", .array [.number (.integer Word.greatestUnsigned),
      .number (.integer Word.least), .null])]

theorem fits_extremePod : Fits Structured.memberDepth extremePod := by
  refine .object (by decide) (by unfold Ascending; decide) fun m hm => ?_
  simp only [List.mem_cons, List.not_mem_nil, or_false] at hm
  rcases hm with rfl | rfl | rfl | rfl
  · exact .string _ _
  · exact .string _ _
  · exact .object (by decide) (List.pairwise_singleton _ _)
      (List.forall_mem_singleton.mpr (.string _ _))
  · refine .array (by decide) fun v hv => ?_
    simp only [List.mem_cons, List.not_mem_nil, or_false] at hv
    rcases hv with rfl | rfl | rfl
    · exact .number _ _
    · exact .number _ _
    · exact .null _

theorem whole_extremePod : Whole extremePod := by
  refine .object fun m hm => ?_
  simp only [List.mem_cons, List.not_mem_nil, or_false] at hm
  rcases hm with rfl | rfl | rfl | rfl
  · exact .string _
  · exact .string _
  · exact .object (List.forall_mem_singleton.mpr (.string _))
  · refine .array fun v hv => ?_
    simp only [List.mem_cons, List.not_mem_nil, or_false] at hv
    rcases hv with rfl | rfl | rfl
    · exact .number ⟨by decide, by decide⟩
    · exact .number ⟨by decide, by decide⟩
    · exact .null

theorem carries_extremePod :
    IsStructured [("Content-Type", utf8Bytes structuredType)] ∧
      Envelope.ofRequest [("Content-Type", utf8Bytes structuredType)] (eventBody "a" extremePod) =
        .ok ⟨"a", none, Structured.payloadOf extremePod⟩ ∧
      HasData (eventBody "a" extremePod) extremePod ∧ Whole extremePod ∧
      Carries ⟨"a", none, Structured.payloadOf extremePod⟩ extremePod := by
  have hs : IsStructured [("Content-Type", utf8Bytes structuredType)] := by
    unfold IsStructured
    decide +kernel
  obtain ⟨hv, ha⟩ :=
    accepted_eventBody hs "a" fits_extremePod whole_extremePod (by unfold extremePod; simp)
  exact ⟨hs, ha, hv, whole_extremePod, modes_agree hs ha hv whole_extremePod⟩

end ClusterArchive.Proofs.Sink.Modes
