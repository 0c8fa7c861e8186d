import ClusterArchive.Policy.Loading

/-!
# Checking policies

The report on a policy directory: how many rules it gives on the one side, every error on the other.
The check succeeds if there is no error.
-/

namespace ClusterArchive.Policy

/-- What a check writes, and whether it succeeds. -/
structure Report where
  output : List String
  errors : List String
  succeeds : Bool
deriving DecidableEq, Repr

/-- The report on what was loaded from a path. -/
def Report.of (path : String) (l : Loaded) : Report :=
  let failed := !l.errors.isEmpty
  { output := ["archive filters: " ++ toString l.rules.archive.length,
      "delete filters:  " ++ toString l.rules.delete.length]
    errors := (l.errors.map fun e => "error: " ++ e.message) ++
      (if failed then
        ["Error: " ++ toString l.errors.length ++ " policy error(s) in " ++ path]
      else [])
    succeeds := !failed }

/-- The exit code of a check that succeeded or failed. -/
def Report.code (r : Report) : Nat := if r.succeeds then 0 else 1

/-- The exit code of a check that halted at a literal without a value. -/
def haltCode : Nat := 101

end ClusterArchive.Policy
