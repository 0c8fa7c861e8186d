import ClusterArchive.Log.Secrets
import ClusterArchive.Proofs.Log.Outcome

/-! # The headers of a backend request

The headers that a request carries come from two maps, the mounted ones and those of the query, and
a map is gone through in any order. Of the mounted ones that have one name the last takes the place
of those before it (`valuesOf_configure`); those of the query are all sent, in the order they come
(`values_of_sends`). Names are told apart by case in a directory and in a query but not in a
request, so two of them may be one header: then the order decides which mounted value is sent, or
which of the query's values comes first. Short of that the order plays no part, nor does that of the
directory's listing (`settled_iff`).

* `valuesOf`: the values that headers carry under a name.
* `Sends`: what may be sent for a directory and a query, whatever the orders.
* `order_decides`: two files whose names differ in case. -/

namespace ClusterArchive.Proofs.Log.Injection

open ClusterArchive.Log ClusterArchive.Proofs.Log.Outcome
open ClusterArchive.Http (foldName sameName)

/-- Header names with their values. -/
abbrev Fields := List (String × String)

/-- The values that headers carry under a name, in order. -/
def valuesOf (name : String) (headers : Fields) : List String :=
  (headers.filter fun h => sameName h.1 name).map (·.2)

/-- Whether a header can be sent. -/
def Sendable (h : String × String) : Prop := isHeaderName h.1 = true ∧ isHeaderValue h.2 = true

variable {name : String} {headers mounted : Fields}

/-! ### Names -/

theorem toLower_toLower (c : Char) : c.toLower.toLower = c.toLower := by
  unfold Char.toLower
  grind

theorem foldName_ofList (n : String) : foldName (String.ofList (foldName n)) = foldName n := by
  unfold foldName
  rw [String.toList_ofList, List.map_map]
  exact List.map_congr_left fun c _ => toLower_toLower c

theorem sameName_ofList (n name : String) :
    sameName (String.ofList (foldName n)) name = sameName n name := by
  rw [sameName, sameName, foldName_ofList]

theorem sameName_iff {a b : String} : sameName a b = true ↔ foldName a = foldName b := beq_iff_eq

theorem sameName_congr {a b : String} (h : sameName a b = true) (n : String) :
    sameName n a = sameName n b := by
  rw [sameName, sameName, sameName_iff.mp h]

theorem mem_valuesOf {v : String} :
    v ∈ valuesOf name headers ↔ ∃ n, (n, v) ∈ headers ∧ sameName n name = true := by
  simp [valuesOf]

theorem valuesOf_cons (n v : String) (headers : Fields) :
    valuesOf name ((n, v) :: headers) =
      (if sameName n name then [v] else []) ++ valuesOf name headers := by
  unfold valuesOf
  rw [List.filter_cons]
  cases sameName n name <;> rfl

theorem valuesOf_append (front back : Fields) :
    valuesOf name (front ++ back) = valuesOf name front ++ valuesOf name back := by
  simp [valuesOf]

theorem valuesOf_perm {headers' : Fields} (h : headers.Perm headers') :
    (valuesOf name headers).Perm (valuesOf name headers') := (h.filter _).map _

/-- The names of a request are compared as they are written in it. -/
theorem valuesOf_folded (headers : Fields) :
    valuesOf name (headers.map fun h => (String.ofList (foldName h.1), h.2)) =
      valuesOf name headers := by
  unfold valuesOf
  rw [List.filter_map, List.map_map]
  simp [Function.comp_def, sameName_ofList]

/-! ### The mounted headers -/

/-- A header takes the place of those of the same name. -/
theorem valuesOf_setHeader (n v : String) (headers : Fields) :
    valuesOf name (setHeader n v headers) =
      if sameName n name then [v] else valuesOf name headers := by
  have hn : valuesOf name (headers.filter fun h => !sameName h.1 n) =
      if sameName n name then [] else valuesOf name headers := by
    unfold valuesOf
    rw [List.filter_filter]
    split
    · rename_i h
      simp [sameName_congr h]
    · rename_i h
      refine congrArg (List.map Prod.snd) (List.filter_congr fun x _ => ?_)
      -- a header of the name is not of the other name
      cases hx : sameName x.1 name with
      | false => rfl
      | true =>
        have hd : sameName x.1 n = false := by
          rw [← Bool.not_eq_true]
          exact fun hs =>
            h (sameName_iff.mpr ((sameName_iff.mp hs).symm.trans (sameName_iff.mp hx)))
        rw [hd]
        rfl
  rw [setHeader, valuesOf_append, hn, valuesOf_cons, sameName_ofList]
  split <;> simp [valuesOf]

theorem exists_configure (mounted headers : Fields) :
    (∃ result, configure headers mounted = .ok result) ↔ ∀ h ∈ mounted, Sendable h := by
  induction mounted generalizing headers with
  | nil => simp [configure]
  | cons h mounted ih =>
    obtain ⟨n, v⟩ := h
    rw [List.forall_mem_cons, ← ih (setHeader n v headers), configure]
    cases hn : isHeaderName n <;> cases hv : isHeaderValue v <;> simp [Sendable, hn, hv]

/-- Of the mounted headers of one name the last one counts. -/
theorem valuesOf_configure {result : Fields} (h : configure headers mounted = .ok result) :
    valuesOf name result =
      ((valuesOf name mounted).getLast?.map ([·])).getD (valuesOf name headers) := by
  induction mounted generalizing headers with
  | nil =>
    cases h
    rfl
  | cons m mounted ih =>
    obtain ⟨n, v⟩ := m
    unfold configure at h
    split at h
    · cases h
    · split at h
      · cases h
      · rw [ih h, valuesOf_setHeader, valuesOf_cons]
        cases sameName n name with
        | false => rfl
        | true =>
          simp only [if_true, List.singleton_append, List.getLast?_cons]
          cases (valuesOf name mounted).getLast? <;> rfl

theorem valuesOf_ofConfig {p : Proxy} (h : Proxy.ofConfig mounted = .ok p) :
    valuesOf name p.headers = (valuesOf name mounted).getLast?.toList := by
  unfold Proxy.ofConfig at h
  cases hc : configure [] mounted with
  | error e =>
    rw [hc] at h
    cases h
  | ok result =>
    rw [hc] at h
    cases h
    rw [valuesOf_configure hc]
    cases (valuesOf name mounted).getLast? <;> rfl

theorem exists_ofConfig : (∃ p, Proxy.ofConfig mounted = .ok p) ↔ ∀ h ∈ mounted, Sendable h := by
  rw [← exists_configure mounted [], Proxy.ofConfig]
  cases configure [] mounted <;> simp [Except.map]

/-! ### The directory -/

/-- A directory whose entries are listed in another order. -/
inductive Relisted : Option Files.Listing → Option Files.Listing → Prop
  | missing : Relisted none none
  | unreadable (f : Files.Failure) : Relisted (some (.error f)) (some (.error f))
  | entries {es es' : List Files.Entry} (h : es.Perm es') :
    Relisted (some (.ok es)) (some (.ok es'))

theorem Relisted.refl : ∀ listing : Option Files.Listing, Relisted listing listing
  | none => .missing
  | some (.error f) => .unreadable f
  | some (.ok es) => .entries (.refl es)

/-- The header that an entry holds, if it can be read. -/
def field (e : Files.Entry) : String × String := (e.name, (headerValue e).toOption.getD "")

/-- Whether the header of every entry can be read. -/
def Readable (es : List Files.Entry) : Prop := ∀ e ∈ es, ∃ v, headerValue e = .ok v

theorem headersOf_of_readable {es : List Files.Entry} (h : Readable es) :
    headersOf es = .ok (es.map field) := by
  induction es with
  | nil => rfl
  | cons e es ih =>
    obtain ⟨⟨v, hv⟩, h⟩ := List.forall_mem_cons.mp h
    rw [headersOf, hv, ih h, List.map_cons, field, hv]
    rfl

theorem readable_of_headersOf {es : List Files.Entry} {fields : Fields}
    (h : headersOf es = .ok fields) :
    Readable es := by
  induction es generalizing fields with
  | nil => exact fun _ he => by cases he
  | cons e es ih =>
    rw [headersOf] at h
    cases hv : headerValue e with
    | error f =>
      rw [hv] at h
      cases h
    | ok v =>
      cases ho : headersOf es with
      | error f =>
        rw [hv, ho] at h
        cases h
      | ok rest => exact List.forall_mem_cons.mpr ⟨⟨v, hv⟩, ih ho⟩

/-- The entries that hold headers, in ascending order of their names. -/
def shown (es : List Files.Entry) : List Files.Entry :=
  Files.sortEntries (es.filter fun e => !e.name.startsWith "." && e.isFile)

theorem shown_perm {es es' : List Files.Entry} (h : es.Perm es') : (shown es).Perm (shown es') :=
  ((List.mergeSort_perm _ _).trans (h.filter _)).trans (List.mergeSort_perm _ _).symm

theorem headersOrNone_entries (es : List Files.Entry) :
    headersOrNone (some (.ok es)) = ((headersOf (shown es)).toOption).getD [] := by
  have hm : mountedHeaders (.ok es) = headersOf (shown es) := rfl
  rw [headersOrNone, Option.map_some, hm]
  cases headersOf (shown es) <;> rfl

theorem headersOrNone_of_readable {es : List Files.Entry} (h : Readable (shown es)) :
    headersOrNone (some (.ok es)) = (shown es).map field := by
  rw [headersOrNone_entries, headersOf_of_readable h]
  rfl

theorem headersOrNone_of_unreadable {es : List Files.Entry} (h : ¬ Readable (shown es)) :
    headersOrNone (some (.ok es)) = [] := by
  rw [headersOrNone_entries]
  cases ho : headersOf (shown es) with
  | error f => rfl
  | ok fields => exact absurd (readable_of_headersOf ho) h

/-- The order in which a directory is listed plays no part. -/
theorem headersOrNone_perm {listing listing' : Option Files.Listing}
    (h : Relisted listing listing') :
    (headersOrNone listing).Perm (headersOrNone listing') := by
  cases h with
  | missing => exact .refl _
  | unreadable f => exact .refl _
  | @entries es es' h =>
    have hr : Readable (shown es) ↔ Readable (shown es') :=
      forall_congr' fun e => imp_congr_left (shown_perm h).mem_iff
    by_cases ho : Readable (shown es)
    · rw [headersOrNone_of_readable ho, headersOrNone_of_readable (hr.mp ho)]
      exact (shown_perm h).map field
    · rw [headersOrNone_of_unreadable ho, headersOrNone_of_unreadable (mt hr.mpr ho)]

/-! ### What may be sent -/

/-- What may be sent for a directory and a query: the directory is listed, and each of the two maps
is gone through, in some order. -/
inductive Sends (listing : Option Files.Listing) (q : Query) : Outgoing → Prop
  | sent {listing' : Option Files.Listing} {mounted headers : Fields} {p : Proxy}
    {network : Network} {request : Outgoing} (hl : Relisted listing listing')
    (hm : mounted.Perm (headersOrNone listing')) (hh : headers.Perm q.headers)
    (hp : Proxy.ofConfig mounted = .ok p)
    (hs : (p.retrieve network { q with headers }).sent = some request) : Sends listing q request

variable {listing : Option Files.Listing} {q : Query} {request : Outgoing}

/-- Whether a query gets so far that only its headers can hold it back. -/
def Addressed (q : Query) (url : String) : Prop :=
  q.url = some url ∧ url ≠ "" ∧ ∃ projection, Compiles (expression q) projection

theorem sent_iff {p : Proxy} {network : Network} : (p.retrieve network q).sent = some request ↔
    ∃ url, Addressed q url ∧ (∀ h ∈ q.headers, Sendable h) ∧
      request = p.outgoing url q.headers := by
  have hq : Proxy.sendable q.headers = true ↔ ∀ h ∈ q.headers, Sendable h := by
    simp [Proxy.sendable, Sendable]
  constructor
  · intro h
    have hr := retrieved_retrieve p network q
    generalize p.retrieve network q = x at h hr
    cases hr with
    | missingUrl => cases h
    | invalidProjection => cases h
    | unsendable => cases h
    | sent hu hn hc hs =>
      cases h
      exact ⟨_, ⟨hu, hn, _, hc⟩, hq.mp hs, rfl⟩
  · rintro ⟨url, ⟨hu, hn, _, hc⟩, hs, rfl⟩
    rw [← eq_retrieve_of_retrieved (.sent hu hn hc (hq.mpr hs) (concluded_iff.mpr rfl))]

theorem valuesOf_outgoing {p : Proxy} (h : Proxy.ofConfig mounted = .ok p) (url : String) :
    valuesOf name (p.outgoing url headers).headers =
      (valuesOf name mounted).getLast?.toList ++ valuesOf name headers := by
  rw [Proxy.outgoing, valuesOf_append, valuesOf_ofConfig h, valuesOf_folded]

/-- Under a name a request carries the last of the mounted values and then those of the query. -/
theorem values_of_sends (h : Sends listing q request) : ∃ mounted headers : Fields,
    mounted.Perm (headersOrNone listing) ∧ headers.Perm q.headers ∧ ∀ name,
      valuesOf name request.headers =
        (valuesOf name mounted).getLast?.toList ++ valuesOf name headers := by
  obtain ⟨hl, hm, hh, hp, hs⟩ := h
  obtain ⟨url, -, -, rfl⟩ := sent_iff.mp hs
  exact ⟨_, _, hm.trans (headersOrNone_perm hl).symm, hh, fun name => valuesOf_outgoing hp url⟩

/-- If something is sent, it may as well be what comes of any other order. -/
theorem sends_of_perm (h : Sends listing q request) (hm : mounted.Perm (headersOrNone listing))
    (hh : headers.Perm q.headers) : ∃ request', Sends listing q request' ∧ ∀ name,
      valuesOf name request'.headers =
        (valuesOf name mounted).getLast?.toList ++ valuesOf name headers := by
  obtain ⟨hl, hm', hh', hp', hs'⟩ := h
  rename_i listing' mounted' headers' p' network
  have hperm : mounted.Perm mounted' := (hm.trans (headersOrNone_perm hl)).trans hm'.symm
  obtain ⟨p, hp⟩ : ∃ p, Proxy.ofConfig mounted = .ok p :=
    exists_ofConfig.mpr fun h hmem => exists_ofConfig.mp ⟨p', hp'⟩ h (hperm.mem_iff.mp hmem)
  obtain ⟨url, ha, hv, -⟩ := sent_iff.mp hs'
  have hv' : ∀ h ∈ headers, Sendable h := fun h hmem => hv h ((hh.trans hh'.symm).mem_iff.mp hmem)
  have hs : (p.retrieve network { q with headers }).sent = some (p.outgoing url headers) :=
    sent_iff.mpr ⟨url, ha, hv', rfl⟩
  exact ⟨p.outgoing url headers, .sent (.refl listing) hm hh hp hs,
    fun name => valuesOf_outgoing hp url⟩

/-! ### When the orders play no part -/

/-- Whether all values are the same. -/
def Alike (values : List String) : Prop := ∀ v ∈ values, ∀ w ∈ values, v = w

theorem eq_of_alike {values front back : List String} (h : Alike values) (hf : front.Perm values)
    (hb : back.Perm values) : front = back := by
  cases values with
  | nil => rw [hf.eq_nil, hb.eq_nil]
  | cons v values =>
    have hr : v :: values = List.replicate (values.length + 1) v :=
      List.eq_replicate_iff.mpr ⟨rfl, fun w hw => h w hw v List.mem_cons_self⟩
    rw [hr] at hf hb
    rw [List.perm_replicate.mp hf, List.perm_replicate.mp hb]

/-- Any value may come last. -/
theorem exists_last {v : String} (h : v ∈ valuesOf name headers) :
    ∃ headers', headers'.Perm headers ∧ (valuesOf name headers').getLast? = some v := by
  obtain ⟨n, hn, hs⟩ := mem_valuesOf.mp h
  refine ⟨headers.erase (n, v) ++ [(n, v)],
    (List.perm_append_singleton _ _).trans (List.perm_cons_erase hn).symm, ?_⟩
  rw [valuesOf_append, valuesOf_cons, hs, if_pos rfl]
  simp [valuesOf]

/-- Any value may come first. -/
theorem exists_first {v : String} (h : v ∈ valuesOf name headers) :
    ∃ headers', headers'.Perm headers ∧ (valuesOf name headers').head? = some v := by
  obtain ⟨n, hn, hs⟩ := mem_valuesOf.mp h
  refine ⟨(n, v) :: headers.erase (n, v), (List.perm_cons_erase hn).symm, ?_⟩
  rw [valuesOf_cons, hs, if_pos rfl]
  rfl

/-- Whether the orders play no part in what is sent under a name. -/
def Determined (listing : Option Files.Listing) (q : Query) (name : String) : Prop :=
  ∀ request request', Sends listing q request → Sends listing q request' →
    valuesOf name request.headers = valuesOf name request'.headers

theorem alike_of_determined (hd : Determined listing q name) (h : Sends listing q request) :
    Alike (valuesOf name (headersOrNone listing)) ∧ Alike (valuesOf name q.headers) := by
  constructor
  · intro v hv w hw
    obtain ⟨mounted, hm, hl⟩ := exists_last hv
    obtain ⟨mounted', hm', hl'⟩ := exists_last hw
    obtain ⟨request₁, h₁, hv₁⟩ := sends_of_perm h hm (.refl q.headers)
    obtain ⟨request₂, h₂, hv₂⟩ := sends_of_perm h hm' (.refl q.headers)
    have he := hd request₁ request₂ h₁ h₂
    rw [hv₁, hv₂, hl, hl'] at he
    exact List.head_eq_of_cons_eq he
  · intro v hv w hw
    obtain ⟨headers, hh, hf⟩ := exists_first hv
    obtain ⟨headers', hh', hf'⟩ := exists_first hw
    obtain ⟨request₁, h₁, hv₁⟩ := sends_of_perm h (.refl (headersOrNone listing)) hh
    obtain ⟨request₂, h₂, hv₂⟩ := sends_of_perm h (.refl (headersOrNone listing)) hh'
    have he := hd request₁ request₂ h₁ h₂
    rw [hv₁, hv₂] at he
    have hs : some v = some w := by rw [← hf, ← hf', List.append_cancel_left he]
    exact Option.some.inj hs

theorem determined_of_alike
    (h : ∀ request, Sends listing q request →
      Alike (valuesOf name (headersOrNone listing)) ∧ Alike (valuesOf name q.headers)) :
    Determined listing q name := by
  intro request request' hs hs'
  obtain ⟨hm, hh⟩ := h request hs
  obtain ⟨mounted₁, headers₁, hm₁, hh₁, hv₁⟩ := values_of_sends hs
  obtain ⟨mounted₂, headers₂, hm₂, hh₂, hv₂⟩ := values_of_sends hs'
  rw [hv₁, hv₂, eq_of_alike hm (valuesOf_perm hm₁) (valuesOf_perm hm₂),
    eq_of_alike hh (valuesOf_perm hh₁) (valuesOf_perm hh₂)]

/-- What requests carry under a name. -/
structure Carried (listing : Option Files.Listing) (q : Query) (name : String) : Prop where
  /-- One of the mounted values, if there is one, and then all values of the query. -/
  values : ∀ request, Sends listing q request → ∃ own sent,
    valuesOf name request.headers = own.toList ++ sent ∧
      (own = none ↔ valuesOf name (headersOrNone listing) = []) ∧
      (∀ v ∈ own, v ∈ valuesOf name (headersOrNone listing)) ∧ sent.Perm (valuesOf name q.headers)
  /-- The orders play no part exactly if neither the directory nor the query has two values. -/
  determined : Determined listing q name ↔ ∀ request, Sends listing q request →
    Alike (valuesOf name (headersOrNone listing)) ∧ Alike (valuesOf name q.headers)

/-- **What is configured determines what is carried**, but for names that differ in case only: of
these the directory gives one value, whichever comes last, and the query gives all, whichever comes
first. -/
theorem settled_iff (listing : Option Files.Listing) (q : Query) (name : String) :
    Carried listing q name where
  values request h := by
    obtain ⟨mounted, headers, hm, hh, hv⟩ := values_of_sends h
    have hp : (valuesOf name mounted).Perm (valuesOf name (headersOrNone listing)) :=
      valuesOf_perm hm
    refine ⟨_, _, hv name, ?_, fun v hl => hp.mem_iff.mp (List.mem_of_getLast? hl),
      valuesOf_perm hh⟩
    rw [List.getLast?_eq_none_iff]
    exact ⟨fun hn => (hn ▸ hp).nil_eq.symm, fun hn => (hn ▸ hp).eq_nil⟩
  determined := ⟨fun hd _ h => alike_of_determined hd h, determined_of_alike⟩

/-- Two files whose names are one header. -/
def tenants : List Files.Entry :=
  [⟨"X-Tenant", some (.file (.ok (utf8Bytes "a")) 0)⟩,
    ⟨"x-tenant", some (.file (.ok (utf8Bytes "b")) 0)⟩]

/-- A query with two entries of one header. -/
def traced : Query := ⟨some "http://b/", none, [("X-Trace", "1"), ("x-trace", "2")]⟩

theorem headersOrNone_tenants :
    headersOrNone (some (.ok tenants)) = [("X-Tenant", "a"), ("x-tenant", "b")] := by
  have hf : tenants.filter (fun e => !e.name.startsWith "." && e.isFile) = tenants :=
    List.filter_eq_self.mpr (by decide +kernel)
  have hs : shown tenants = tenants := by
    rw [shown, hf, Files.sortEntries]
    exact List.mergeSort_of_pairwise (by decide +kernel)
  have hr : headersOf tenants = .ok [("X-Tenant", "a"), ("x-tenant", "b")] := rfl
  rw [headersOrNone_entries, hs, hr]
  rfl

/-- In either of the two maps the order may decide. -/
theorem order_decides :
    Sends (some (.ok tenants)) traced ⟨"http://b/",
      [("x-tenant", "b"), ("x-trace", "1"), ("x-trace", "2")]⟩ ∧
      Sends (some (.ok tenants)) traced ⟨"http://b/",
        [("x-tenant", "a"), ("x-trace", "2"), ("x-trace", "1")]⟩ ∧
      ¬ Determined (some (.ok tenants)) traced "x-tenant" ∧
        ¬ Determined (some (.ok tenants)) traced "x-trace" := by
  have forth : Sends (some (.ok tenants)) traced
      ⟨"http://b/", [("x-tenant", "b"), ("x-trace", "1"), ("x-trace", "2")]⟩ := by
    have hp : Proxy.ofConfig [("X-Tenant", "a"), ("x-tenant", "b")] = .ok ⟨[("x-tenant", "b")]⟩ :=
      rfl
    have hs : (Proxy.retrieve ⟨[("x-tenant", "b")]⟩ (fun _ => .timedOut) traced).sent =
        some ⟨"http://b/", [("x-tenant", "b"), ("x-trace", "1"), ("x-trace", "2")]⟩ := by
      decide +kernel
    exact .sent (.refl _) (.of_eq headersOrNone_tenants.symm) (.refl _) hp hs
  have back : Sends (some (.ok tenants)) traced
      ⟨"http://b/", [("x-tenant", "a"), ("x-trace", "2"), ("x-trace", "1")]⟩ := by
    have hp : Proxy.ofConfig [("x-tenant", "b"), ("X-Tenant", "a")] = .ok ⟨[("x-tenant", "a")]⟩ :=
      rfl
    have hm : [("x-tenant", "b"), ("X-Tenant", "a")].Perm (headersOrNone (some (.ok tenants))) := by
      rw [headersOrNone_tenants]
      exact .swap _ _ _
    have hh : [("x-trace", "2"), ("X-Trace", "1")].Perm traced.headers := .swap _ _ _
    have hs : (Proxy.retrieve ⟨[("x-tenant", "a")]⟩ (fun _ => .timedOut)
        { traced with headers := [("x-trace", "2"), ("X-Trace", "1")] }).sent =
        some ⟨"http://b/", [("x-tenant", "a"), ("x-trace", "2"), ("x-trace", "1")]⟩ := by
      decide +kernel
    exact .sent (.refl _) hm hh hp hs
  refine ⟨forth, back, fun hd => ?_, fun hd => ?_⟩
  · exact absurd (hd _ _ forth back) (by decide +kernel)
  · exact absurd (hd _ _ forth back) (by decide +kernel)

end ClusterArchive.Proofs.Log.Injection
