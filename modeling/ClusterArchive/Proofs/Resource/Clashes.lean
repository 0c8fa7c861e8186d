import ClusterArchive.Proofs.Resource.Plural
import ClusterArchive.Proofs.Text.Cutting

/-! # Kinds with one plural

Every plural but the empty one is a stem with an "s" behind it. The stem is the noun itself unless
one of three rules varies it (`Varies`), and a varied stem is a noun that is its own stem; so two
nouns share a plural exactly if they are one, or one of them is the varied stem of the other
(`pluralOfNoun_eq_iff`). Objects of one group and version are told apart by their plurals, so kinds
that share one share the paths of their objects, and others never do (`kinds_told_apart`). -/

namespace ClusterArchive.Proofs.Resource.Clashes

open ClusterArchive.Text ClusterArchive.Proofs.Text.Cutting ClusterArchive.Proofs.Resource.Plural

/-! ### Stems -/

/-- The ending of "endpoint". -/
def endpoint : List Char := ['e', 'n', 'd', 'p', 'o', 'i', 'n', 't']

/-- The ending of "endpoints", of which nouns are plurals already. -/
def endpoints : List Char := endpoint ++ ['s']

/-- How the stem of a plural differs from its noun, where it does. -/
inductive Varies : List Char → List Char → Prop
  | sibilant {noun : List Char} (hs : ['s'] <:+ noun) (he : ¬ endpoints <:+ noun) :
    Varies noun (noun ++ ['e'])
  | y (front : List Char) : Varies (front ++ ['y']) (front ++ ['i', 'e'])
  | endpoints {stem : List Char} (h : endpoint <:+ stem) : Varies (stem ++ ['s']) stem

/-- Whether two nouns have one plural: they are one, or one is the varied stem of the other. -/
def OnePlural (u v : List Char) : Prop := u = v ∨ Varies u v ∨ Varies v u

variable {noun stem u v : List Char}

theorem pluralOfNoun_eq (noun : List Char) :
    pluralOfNoun noun =
      if noun = [] ∨ endpoints <:+ noun then noun
      else if ['s'] <:+ noun then noun ++ ['e', 's']
      else if ['y'] <:+ noun then noun.dropLast ++ ['i', 'e', 's']
      else noun ++ ['s'] := by
  unfold pluralOfNoun withoutEnding?
  have he :
      ((noun.isEmpty || ['e', 'n', 'd', 'p', 'o', 'i', 'n', 't', 's'].isSuffixOf noun) = true) =
      (noun = [] ∨ endpoints <:+ noun) := by
    simp [endpoints, endpoint]
  simp only [he, List.isSuffixOf_iff_suffix, List.length_singleton, ← List.dropLast_eq_take]
  by_cases hy : ['y'] <:+ noun
  · simp only [if_pos hy]
  · simp only [if_neg hy]

theorem suffix_of_endpoints (h : endpoints <:+ noun) : ['s'] <:+ noun :=
  (List.suffix_append endpoint ['s']).trans h

theorem not_suffix_concat {c d : Char} (h : c ≠ d) (l : List Char) : ¬ [c] <:+ l ++ [d] := by
  simp [List.singleton_suffix_iff_getLast?_eq_some, Ne.symm h]

/-- A noun that no rule varies is the stem of its plural. -/
theorem pluralOfNoun_of_regular (hn : noun ≠ []) (hs : ¬ ['s'] <:+ noun) (hy : ¬ ['y'] <:+ noun) :
    pluralOfNoun noun = noun ++ ['s'] := by
  have he : ¬ (noun = [] ∨ endpoints <:+ noun) := not_or.mpr ⟨hn, mt suffix_of_endpoints hs⟩
  rw [pluralOfNoun_eq, if_neg he, if_neg hs, if_neg hy]

theorem pluralOfNoun_of_varies (h : Varies noun stem) : pluralOfNoun noun = stem ++ ['s'] := by
  cases h with
  | sibilant hs he =>
    have hn : noun ≠ [] := by
      rintro rfl
      simp at hs
    rw [pluralOfNoun_eq, if_neg (not_or.mpr ⟨hn, he⟩), if_pos hs, List.append_assoc]
    rfl
  | y front =>
    have hs : ¬ ['s'] <:+ front ++ ['y'] := not_suffix_concat (by decide) front
    have he : ¬ (front ++ ['y'] = [] ∨ endpoints <:+ front ++ ['y']) :=
      not_or.mpr ⟨by simp, mt suffix_of_endpoints hs⟩
    rw [pluralOfNoun_eq, if_neg he, if_neg hs, if_pos (List.suffix_append front ['y'])]
    simp
  | endpoints h =>
    obtain ⟨front, rfl⟩ := h
    have he : endpoints <:+ front ++ endpoint ++ ['s'] := ⟨front, by simp [endpoints]⟩
    rw [pluralOfNoun_eq, if_pos (.inr he)]

theorem append_pair (l : List Char) (c d : Char) : l ++ [c, d] = (l ++ [c]) ++ [d] := by simp

theorem suffix_of_endpoint (h : endpoint <:+ stem) : ['t'] <:+ stem :=
  (List.suffix_append ['e', 'n', 'd', 'p', 'o', 'i', 'n'] ['t']).trans h

/-- A varied stem is varied no further. -/
theorem pluralOfNoun_of_varied (h : Varies noun stem) : pluralOfNoun stem = stem ++ ['s'] := by
  -- it ends in "e" or in "t"
  obtain ⟨front, c, rfl, hs, hy⟩ : ∃ front c, stem = front ++ [c] ∧ 's' ≠ c ∧ 'y' ≠ c := by
    cases h with
    | sibilant hs he => exact ⟨noun, 'e', rfl, by decide, by decide⟩
    | y front => exact ⟨front ++ ['i'], 'e', append_pair front 'i' 'e', by decide, by decide⟩
    | endpoints h =>
      obtain ⟨front, rfl⟩ := suffix_of_endpoint h
      exact ⟨front, 't', rfl, by decide, by decide⟩
  exact pluralOfNoun_of_regular (by simp) (not_suffix_concat hs front) (not_suffix_concat hy front)

theorem varies_or_regular (hn : noun ≠ []) :
    (∃ stem, Varies noun stem) ∨ pluralOfNoun noun = noun ++ ['s'] := by
  by_cases hs : ['s'] <:+ noun
  · left
    by_cases he : endpoints <:+ noun
    · obtain ⟨front, rfl⟩ := he
      refine ⟨front ++ endpoint, ?_⟩
      rw [endpoints, ← List.append_assoc]
      exact .endpoints (List.suffix_append front endpoint)
    · exact ⟨_, .sibilant hs he⟩
  · by_cases hy : ['y'] <:+ noun
    · obtain ⟨front, rfl⟩ := hy
      exact .inl ⟨_, .y front⟩
    · exact .inr (pluralOfNoun_of_regular hn hs hy)

/-- The noun of a varied stem. -/
def nounOf (stem : List Char) : List Char :=
  if ['t'] <:+ stem then stem ++ ['s']
  else if ['i', 'e'] <:+ stem then stem.dropLast.dropLast ++ ['y']
  else stem.dropLast

/-- The end of a varied stem tells the rule, so the stem has one noun only. -/
theorem Varies.eq_nounOf (h : Varies noun stem) : noun = nounOf stem := by
  unfold nounOf
  cases h with
  | sibilant hs he =>
    have hi : ¬ ['i', 'e'] <:+ noun ++ ['e'] := by
      intro hi
      obtain ⟨front, hf⟩ := hi
      rw [append_pair] at hf
      rw [← List.append_cancel_right hf] at hs
      exact not_suffix_concat (by decide) front hs
    rw [if_neg (not_suffix_concat (by decide) noun), if_neg hi, List.dropLast_concat]
  | y front =>
    have ht : ¬ ['t'] <:+ front ++ ['i', 'e'] := by
      rw [append_pair]
      exact not_suffix_concat (by decide) _
    rw [if_neg ht, if_pos (List.suffix_append front ['i', 'e']), append_pair, List.dropLast_concat,
      List.dropLast_concat]
  | endpoints h => rw [if_pos (suffix_of_endpoint h)]

theorem pluralOfNoun_eq_iff : pluralOfNoun u = pluralOfNoun v ↔ OnePlural u v := by
  constructor
  · intro h
    by_cases hu : u = []
    · subst hu
      have hv : pluralOfNoun v = [] := by rw [← h, pluralOfNoun_eq_nil_iff]
      exact .inl ((pluralOfNoun_eq_nil_iff v).mp hv).symm
    · have hv : v ≠ [] := by
        rintro rfl
        exact hu ((pluralOfNoun_eq_nil_iff u).mp h)
      rcases varies_or_regular hu with ⟨stem, hus⟩ | hur <;>
        rcases varies_or_regular hv with ⟨stem', hvs⟩ | hvr
      · rw [pluralOfNoun_of_varies hus, pluralOfNoun_of_varies hvs] at h
        have hst : stem = stem' := List.append_cancel_right h
        exact .inl (by rw [hus.eq_nounOf, hvs.eq_nounOf, hst])
      · rw [pluralOfNoun_of_varies hus, hvr] at h
        exact .inr (.inl (List.append_cancel_right h ▸ hus))
      · rw [hur, pluralOfNoun_of_varies hvs] at h
        exact .inr (.inr (List.append_cancel_right h ▸ hvs))
      · rw [hur, hvr] at h
        exact .inl (List.append_cancel_right h)
  · rintro (rfl | h | h)
    · rfl
    · rw [pluralOfNoun_of_varies h, pluralOfNoun_of_varied h]
    · rw [pluralOfNoun_of_varies h, pluralOfNoun_of_varied h]

theorem guessPlural_eq_iff {a b : String} :
    guessPlural a = guessPlural b ↔ OnePlural (lowercase a.toList) (lowercase b.toList) := by
  rw [guessPlural, guessPlural, String.ofList_inj, pluralOfNoun_eq_iff]

/-! ### Paths -/

/-- The path of an object below that of its group and version: its namespace, if it is in one, its
plural and its name. -/
def below (o : ApiObject) : String :=
  (match o.namespace_ with
    | some ns => "namespaces/" ++ ns ++ "/"
    | none => "") ++ o.resource.plural ++ "/" ++ o.name

/-- Whether objects are asked for by their paths, which begin with one for each group and
version. -/
def AsksByPath (path : ApiObject → String) : Prop :=
  ∃ root : String → String → String, ∀ o,
    path o = root o.resource.group o.resource.apiVersion ++ below o

/-- What the path below that of the group and version is made of. -/
def segments (o : ApiObject) : List String :=
  (match o.namespace_ with
    | some ns => ["namespaces", ns]
    | none => []) ++ [o.resource.plural, o.name]

/-- Whether no segment has a slash in it. -/
structure Slashless (o : ApiObject) : Prop where
  namespace_ : ∀ ns ∈ o.namespace_, '/' ∉ ns.toList
  plural : '/' ∉ o.resource.plural.toList
  name : '/' ∉ o.name.toList

variable {o o' : ApiObject}

theorem pieces_below (h : Slashless o) :
    pieces '/' (below o).toList = (segments o).map String.toList := by
  obtain ⟨resource, ns, name⟩ := o
  cases ns with
  | none =>
    simp only [below, String.empty_append, String.append_assoc]
    rw [pieces_append_slash h.plural, pieces_of_not_mem h.name]
    rfl
  | some ns =>
    have hw : "namespaces/" = "namespaces" ++ "/" := rfl
    have hn : '/' ∉ ns.toList := h.namespace_ ns rfl
    simp only [below, hw, String.append_assoc]
    rw [pieces_append_slash (by decide), pieces_append_slash hn, pieces_append_slash h.plural,
      pieces_of_not_mem h.name]
    rfl

/-- Where namespace and name are the same, the plural makes the path. -/
theorem below_eq_iff (hns : o.namespace_ = o'.namespace_) (hn : o.name = o'.name) :
    below o = below o' ↔ o.resource.plural = o'.resource.plural := by
  unfold below
  rw [hns, hn, String.append_left_inj, String.append_left_inj, String.append_right_inj]

/-- Without slashes in it, a path tells the plural of its object. -/
theorem plural_eq_of_below_eq (h : Slashless o) (h' : Slashless o') (he : below o = below o') :
    o.resource.plural = o'.resource.plural := by
  have hs : segments o = segments o' := by
    refine List.map_inj_right (fun _ _ => String.toList_inj.mp) |>.mp ?_
    rw [← pieces_below h, ← pieces_below h', he]
  unfold segments at hs
  -- with a namespace there are four segments, without one two
  cases hn : o.namespace_ <;> cases hn' : o'.namespace_ <;> simp [hn, hn'] at hs
  · exact hs.1
  · exact hs.2.1

theorem not_mem_pluralOfNoun (h : '/' ∉ noun) : '/' ∉ pluralOfNoun noun := by
  by_cases hn : noun = []
  · subst hn
    exact h
  rcases varies_or_regular hn with ⟨stem, hs⟩ | hr
  · rw [pluralOfNoun_of_varies hs]
    cases hs with
    | sibilant _ _ => simp [h]
    | y front => simpa using h
    | endpoints _ => exact h
  · rw [hr]
    simp [h]

theorem not_mem_guessPlural {kind : String} (h : '/' ∉ lowercase kind.toList) :
    '/' ∉ (guessPlural kind).toList := by
  rw [guessPlural, String.toList_ofList]
  exact not_mem_pluralOfNoun h

/-- The object of the given namespace and name whose deletion is asked for under a type. -/
def objectOf (gvk : Gvk) (ns name : String) : ApiObject := (Target.guess gvk).object ns name

theorem slashless_objectOf {gvk : Gvk} {ns name : String} (hk : '/' ∉ lowercase gvk.kind.toList)
    (hns : '/' ∉ ns.toList) (hn : '/' ∉ name.toList) : Slashless (objectOf gvk ns name) where
  namespace_ found hf := by
    unfold objectOf Target.object at hf
    dsimp only at hf
    split at hf
    · cases hf
    · cases hf
      exact hns
  plural := not_mem_guessPlural hk
  name := hn

variable {path : ApiObject → String} {group version a b : String}

/-- Objects of one group and version have one path exactly if they have one below that. -/
theorem path_eq_iff (hp : AsksByPath path) (ns ns' name name' : String) :
    path (objectOf ⟨group, version, a⟩ ns name) = path (objectOf ⟨group, version, b⟩ ns' name') ↔
      below (objectOf ⟨group, version, a⟩ ns name) =
        below (objectOf ⟨group, version, b⟩ ns' name') := by
  obtain ⟨root, hr⟩ := hp
  rw [hr, hr]
  exact String.append_right_inj _

/-- When two kinds are told apart in the cluster. -/
structure ToldApart (path : ApiObject → String) (a b : String) : Prop where
  plurals : guessPlural a = guessPlural b ↔ OnePlural (lowercase a.toList) (lowercase b.toList)
  /-- Objects of one name have one path exactly if the kinds have one plural. -/
  paths : ∀ group version ns name : String,
    path (objectOf ⟨group, version, a⟩ ns name) = path (objectOf ⟨group, version, b⟩ ns name) ↔
      OnePlural (lowercase a.toList) (lowercase b.toList)
  /-- Whichever their names are, if there are no slashes in them, the paths of objects differ
  otherwise. -/
  others : ¬ OnePlural (lowercase a.toList) (lowercase b.toList) →
    '/' ∉ lowercase a.toList → '/' ∉ lowercase b.toList →
    ∀ group version ns ns' name name' : String, '/' ∉ ns.toList → '/' ∉ ns'.toList →
      '/' ∉ name.toList → '/' ∉ name'.toList →
        path (objectOf ⟨group, version, a⟩ ns name) ≠ path (objectOf ⟨group, version, b⟩ ns' name')

/-- **Kinds are told apart unless they have one plural**, which they have exactly if their nouns are
one or one of them is the varied stem of the other. -/
theorem kinds_told_apart (hp : AsksByPath path) (a b : String) : ToldApart path a b where
  plurals := guessPlural_eq_iff
  paths group version ns name := by
    have hb : below (objectOf ⟨group, version, a⟩ ns name) =
        below (objectOf ⟨group, version, b⟩ ns name) ↔
          guessPlural a = guessPlural b := below_eq_iff rfl rfl
    rw [path_eq_iff hp, hb, guessPlural_eq_iff]
  others hd ha hb group version ns ns' name name' hns hns' hn hn' he := by
    have ho : Slashless (objectOf ⟨group, version, a⟩ ns name) := slashless_objectOf ha hns hn
    have ho' : Slashless (objectOf ⟨group, version, b⟩ ns' name') := slashless_objectOf hb hns' hn'
    have hb : below (objectOf ⟨group, version, a⟩ ns name) =
        below (objectOf ⟨group, version, b⟩ ns' name') :=
      (path_eq_iff hp ns ns' name name').mp he
    exact hd (guessPlural_eq_iff.mp (plural_eq_of_below_eq ho ho' hb))

/-- The paths of the cluster: those of the core group are apart from all others. -/
def apiPath (o : ApiObject) : String :=
  (if o.resource.group.isEmpty then "/api/" else "/apis/") ++ o.resource.apiVersion ++ "/" ++
    below o

theorem told_apart_endpoint :
    apiPath (objectOf ⟨"", "v1", "Endpoint"⟩ "shop" "db") = "/api/v1/namespaces/shop/endpoints/db" ∧
      OnePlural (lowercase "Endpoint".toList) (lowercase "Endpoints".toList) ∧
        AsksByPath apiPath ∧ ToldApart apiPath "Endpoint" "Endpoints" := by
  have hc : OnePlural (lowercase "Endpoint".toList) (lowercase "Endpoints".toList) :=
    .inr (.inr (.endpoints (List.suffix_refl endpoint)))
  have hp : AsksByPath apiPath :=
    ⟨fun group apiVersion => (if group.isEmpty then "/api/" else "/apis/") ++ apiVersion ++ "/",
      fun _ => rfl⟩
  exact ⟨by decide +kernel, hc, hp, kinds_told_apart hp "Endpoint" "Endpoints"⟩

end ClusterArchive.Proofs.Resource.Clashes
