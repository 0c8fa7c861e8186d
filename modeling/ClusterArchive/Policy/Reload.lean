import ClusterArchive.Policy.Loading

/-!
# Reloading policies

The rule set in force is exchanged as a whole when the policy directory has changed. Whether it has
is told from a fingerprint: the names of its entries, hidden ones included, with the sizes and times
of modification of what they lead to. A rule set that was taken before an exchange stays what it
was.
-/

namespace ClusterArchive.Policy

/-- The size and time of modification of what an entry leads to. -/
inductive Mark
  | file (size : Option Nat) (modified : Int)
  | directory (stamp : List String)
deriving DecidableEq, Repr

/-- The mark of a target. -/
def Mark.ofTarget : Files.Target → Mark
  | .file contents modified => file (contents.toOption.map List.length) modified
  | .directory stamp => directory stamp

/-- What a directory is recognised by; `none` stands for one that cannot be read. -/
abbrev Fingerprint := Option (List (String × Option Mark))

/-- The fingerprint of a directory. -/
def Fingerprint.ofListing (listing : Files.Listing) : Fingerprint :=
  listing.toOption.map fun entries =>
    (Files.sortEntries entries).map fun e => (e.name, e.target.map Mark.ofTarget)

/-- The rule set in force, the fingerprint last seen, and whether the directory has changed since
the rule set was made. -/
structure Reloader where
  current : RuleSet
  seen : Fingerprint
  stale : Bool

namespace Reloader

/-- Begins to watch a directory as it stands. -/
def start (rules : RuleSet) (listing : Files.Listing) : Reloader :=
  ⟨rules, .ofListing listing, false⟩

/-- Looks at the directory, unless a change that was seen is still to be dealt with. -/
def look (w : Reloader) (listing : Files.Listing) : Reloader :=
  let now := Fingerprint.ofListing listing
  if w.stale || now == w.seen then w else { w with seen := now, stale := true }

/-- Makes the rule set anew after a change. Where that halts, the old one stays in force. -/
def rebuild (w : Reloader) (path : String) (listing : Files.Listing) : Reloader :=
  if !w.stale then w
  else
    match load path listing with
    | .ok l => { w with current := l.rules, stale := false }
    | .error _ => { w with stale := false }

end Reloader

end ClusterArchive.Policy
