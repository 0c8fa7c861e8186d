import ClusterArchive.Archive.Session
import ClusterArchive.Proofs.Archive.Rows
import Mathlib.Data.Finset.Card

/-! # The archive as its history

An archive that was written to again and again is a function of the writes alone. Under a key it has
the row that the first and the last write under that key make (`get?_written`): what the object is
called is as it was first written, the rest as it was written last. Its keys are those of the
writes, each once (`keys_written`). In a file, looks at the archive and openings in between leave no
trace (`afterAll_file`), so whatever is asked in a session is answered from the writes so far
(`session_answers`). -/

namespace ClusterArchive.Proofs.Archive.History

open ClusterArchive.Archive ClusterArchive.Proofs.Archive.Rows ClusterArchive.Proofs.Keyed

/-! ### The row under a key -/

/-- The first write under a key. -/
def firstUnder? (key : String) (ws : List Write) : Option Write := ws.find? (·.key == key)

/-- The last write under a key. -/
def lastUnder? (key : String) (ws : List Write) : Option Write := ws.reverse.find? (·.key == key)

/-- The row that a first and a last write make. -/
def rowOf (first last : Write) : Row :=
  { key := first.key
    apiVersion := last.resource.identity.gvk.apiVersion
    kind := first.resource.identity.gvk.kind
    name := first.resource.identity.name
    namespace_ := first.resource.identity.namespace_
    resourceVersion := last.resource.identity.resourceVersion
    created := first.time
    updated := last.time
    data := String.ofList (Utf8.lossy last.raw) }

/-- The row that writes make under a key. -/
def rowUnder? (key : String) (ws : List Write) : Option Row :=
  (firstUnder? key ws).bind fun first => (lastUnder? key ws).map (rowOf first)

variable {key : String} {ws : List Write}

theorem firstUnder?_eq_none : firstUnder? key ws = none ↔ ∀ w ∈ ws, w.key ≠ key := by
  simp [firstUnder?]

theorem lastUnder?_eq_none : lastUnder? key ws = none ↔ ∀ w ∈ ws, w.key ≠ key := by
  simp [lastUnder?]

/-- Under a key there is a first write if and only if there is a last one. -/
theorem firstUnder?_eq_none_iff_lastUnder? : firstUnder? key ws = none ↔ lastUnder? key ws = none :=
  firstUnder?_eq_none.trans lastUnder?_eq_none.symm

theorem rowUnder?_eq_none : rowUnder? key ws = none ↔ ∀ w ∈ ws, w.key ≠ key := by
  rw [← firstUnder?_eq_none, rowUnder?]
  cases hf : firstUnder? key ws with
  | none => simp
  | some first =>
    have hl : lastUnder? key ws ≠ none := fun h => by
      rw [firstUnder?_eq_none_iff_lastUnder?.mpr h] at hf
      cases hf
    simp [hl]

theorem firstUnder?_concat (w : Write) :
    firstUnder? key (ws ++ [w]) =
      if w.key = key then some ((firstUnder? key ws).getD w) else firstUnder? key ws := by
  unfold firstUnder?
  rw [List.find?_append]
  by_cases hk : w.key = key
  · cases ws.find? (·.key == key) <;> simp [hk]
  · simp [hk]

theorem lastUnder?_concat (w : Write) :
    lastUnder? key (ws ++ [w]) = if w.key = key then some w else lastUnder? key ws := by
  unfold lastUnder?
  rw [List.reverse_append, List.reverse_singleton, List.singleton_append, find?_key_cons]

/-- One more write renews the row of its key, or makes it, and leaves every other row. -/
theorem rowUnder?_concat (w : Write) :
    rowUnder? key (ws ++ [w]) =
      if w.key = key then
        some (((rowUnder? key ws).map (·.renew (.of w.resource w.raw w.time))).getD
          (.of w.resource w.raw w.time))
      else rowUnder? key ws := by
  unfold rowUnder?
  rw [firstUnder?_concat, lastUnder?_concat]
  by_cases hk : w.key = key
  · rw [if_pos hk, if_pos hk, if_pos hk]
    cases hf : firstUnder? key ws with
    | none => rfl
    | some first =>
      cases hl : lastUnder? key ws with
      | none =>
        rw [firstUnder?_eq_none_iff_lastUnder?.mpr hl] at hf
        cases hf
      | some last => rfl
  · rw [if_neg hk, if_neg hk, if_neg hk]

/-! ### Many writes -/

/-- An archive after writes in order. -/
def written (s : Store) (ws : List Write) : Store :=
  ws.foldl (fun s w => s.write w.resource w.raw w.time) s

theorem written_concat (s : Store) (ws : List Write) (w : Write) :
    written s (ws ++ [w]) = (written s ws).write w.resource w.raw w.time := by
  rw [written, List.foldl_append]
  rfl

theorem get?_written (key : String) (ws : List Write) :
    (written [] ws).get? key = rowUnder? key ws := by
  induction ws using List.reverseRecOn with
  | nil => rfl
  | append_singleton ws w ih =>
    rw [written_concat, Store.write, get?_upsert, rowUnder?_concat, ih]
    rfl

theorem keys_written (ws : List Write) :
    (keys (written [] ws)).Nodup ∧ ∀ key, key ∈ keys (written [] ws) ↔ key ∈ ws.map Write.key := by
  induction ws using List.reverseRecOn with
  | nil => exact ⟨List.nodup_nil, fun key => Iff.rfl⟩
  | append_singleton ws w ih =>
    obtain ⟨hd, hm⟩ := ih
    rw [written_concat, Store.write]
    refine ⟨nodup_keys_upsert hd, fun key => ?_⟩
    rw [mem_keys_upsert, hm, List.map_append, List.mem_append, List.map_singleton,
      List.mem_singleton, or_comm]
    rfl

theorem count_written (ws : List Write) :
    (written [] ws).count = (ws.map Write.key).toFinset.card := by
  obtain ⟨hd, hm⟩ := keys_written ws
  have he : (keys (written [] ws)).toFinset = (ws.map Write.key).toFinset := by
    ext key
    rw [List.mem_toFinset, List.mem_toFinset, hm]
  rw [← length_keys, ← List.toFinset_card_of_nodup hd, he]

/-- A row of the archive is the one found under its key. -/
theorem rowUnder?_of_mem {row : Row} (h : row ∈ written [] ws) :
    rowUnder? row.key ws = some row := by
  rw [← get?_written]
  exact get?_of_mem (keys_written ws).1 h

/-! ### Sessions -/

/-- The writes among requests. -/
def writesIn (requests : List Request) : List Write :=
  requests.filterMap fun
    | .write w => some w
    | _ => none

/-- Whether a request is a write under a key. -/
def WritesUnder (key : String) : Request → Prop
  | .write w => w.key = key
  | _ => False

/-- An archive in a file is what the writes made it. -/
theorem afterAll_file (path : String) : ∀ (requests : List Request) (s : Store),
    s.afterAll (.file path) requests = written s (writesIn requests)
  | [], _ => rfl
  | .write w :: requests, s => afterAll_file path requests (s.write w.resource w.raw w.time)
  | .get _ :: requests, s => afterAll_file path requests s
  | .count :: requests, s => afterAll_file path requests s
  | .reopen :: requests, s => afterAll_file path requests s

theorem replies_append (p : Place) (more : List Request) : ∀ (requests : List Request) (s : Store),
    s.replies p (requests ++ more) = s.replies p requests ++ (s.afterAll p requests).replies p more
  | [], _ => rfl
  | q :: requests, s => congrArg (s.reply q :: ·) (replies_append p more requests (s.after p q))

theorem length_replies (p : Place) : ∀ (requests : List Request) (s : Store),
    (s.replies p requests).length = requests.length
  | [], _ => rfl
  | q :: requests, s => congrArg Nat.succ (length_replies p requests (s.after p q))

/-- The answer to a request within a session is given by the archive as it then was. -/
theorem getElem?_replies (p : Place) (s : Store) (before after : List Request) (q : Request) :
    (s.replies p (before ++ q :: after))[before.length]? =
      some ((s.afterAll p before).reply q) := by
  rw [replies_append, List.getElem?_append_right (length_replies p before s).le, length_replies,
    Nat.sub_self]
  rfl

theorem writesIn_concat_of_not {q : Request} (requests : List Request) (h : ¬ WritesUnder key q) :
    rowUnder? key (writesIn (requests ++ [q])) = rowUnder? key (writesIn requests) := by
  unfold writesIn
  rw [List.filterMap_append]
  cases q with
  | write w => exact (rowUnder?_concat w).trans (if_neg h)
  | get _ => simp
  | count => simp
  | reopen => simp

/-- What a history says of an archive: nothing under a key that was never written, and one row under
any other, made of the first and the last write under that key; what is no write under a key leaves
its row; and there are as many rows as different keys. -/
structure Recounts (path : String) (requests : List Request) (s : Store) : Prop where
  absent : ∀ key, s.get? key = none ↔ ∀ w ∈ writesIn requests, w.key ≠ key
  present : ∀ key, (∃ w ∈ writesIn requests, w.key = key) → ∃ first last,
    firstUnder? key (writesIn requests) = some first ∧
    lastUnder? key (writesIn requests) = some last ∧
      s.filter (·.key == key) = [rowOf first last] ∧ s.get? key = some (rowOf first last) ∧
        (rowOf first last).key = key
  unchanged : ∀ key q, ¬ WritesUnder key q → (s.after (.file path) q).get? key = s.get? key
  count : s.count = ((writesIn requests).map Write.key).toFinset.card

theorem recounts_afterAll (path : String) (requests : List Request) :
    Recounts path requests (Store.afterAll (.file path) [] requests) where
  absent key := by
    rw [afterAll_file, get?_written, rowUnder?_eq_none]
  present key := by
    rintro ⟨w, hw, hk⟩
    have hn : rowUnder? key (writesIn requests) ≠ none := fun h => rowUnder?_eq_none.mp h w hw hk
    obtain ⟨row, hr⟩ := Option.ne_none_iff_exists'.mp hn
    obtain ⟨first, hf, hlr⟩ := Option.bind_eq_some_iff.mp hr
    obtain ⟨last, hl, rfl⟩ := Option.map_eq_some_iff.mp hlr
    have hg : (Store.afterAll (.file path) [] requests).get? key = some (rowOf first last) := by
      rw [afterAll_file, get?_written, hr]
    refine ⟨first, last, hf, hl, ?_, hg, key_of_get? hg⟩
    rw [filter_key_eq _ key, hg]
    · rfl
    · rw [afterAll_file]
      exact (keys_written _).1
  unchanged key q hq := by
    have hs : ∀ requests, (Store.afterAll (.file path) [] requests).get? key =
        rowUnder? key (writesIn requests) := fun requests => by
      rw [afterAll_file, get?_written]
    have hc : (Store.afterAll (.file path) [] requests).after (.file path) q =
        Store.afterAll (.file path) [] (requests ++ [q]) := by
      rw [Store.afterAll, Store.afterAll, List.foldl_append]
      rfl
    rw [hc, hs, hs, writesIn_concat_of_not requests hq]
  count := by
    rw [afterAll_file, count_written]

/-- **A session with an archive in a file is answered from the writes so far**: whatever is asked,
the archive at that moment is what the writes before it recount. -/
theorem session_answers (path : String) (requests : List Request) :
    Recounts path requests (Store.afterAll (.file path) [] requests) ∧
      ∀ before q after, requests = before ++ q :: after →
        ∃ s, Recounts path before s ∧
          (Store.replies (.file path) [] requests)[before.length]? = some (s.reply q) := by
  refine ⟨recounts_afterAll path requests, ?_⟩
  rintro before q after rfl
  exact ⟨_, recounts_afterAll path before, getElem?_replies (.file path) [] before after q⟩

end ClusterArchive.Proofs.Archive.History
