import ClusterArchive.Files.Listing
import ClusterArchive.Policy.Definition
import ClusterArchive.Policy.Rules

/-!
# Loading policies

A rule set is made from the files of a directory, one file for each scope. Whatever is wrong in a
file costs no more than that file, and an expression that does not compile no more than that
expression: the set holds all the rest, and the errors are kept in the order in which they were met.
-/

namespace ClusterArchive.Policy

/-- What can be wrong with a policy directory. -/
inductive LoadError
  | notConfigured
  | notMounted (path : String)
  | unreadableDirectory (path : String)
  | unreadableFile (path : String)
  | malformedFile (path : String)
  | invalidCondition (key : Key) (action : Action) (error : CompileError)
  | noDefinitions (path : String)
deriving DecidableEq, Repr

/-- The message of an error. -/
def LoadError.message : LoadError → String
  | notConfigured => "policy directory is not configured"
  | notMounted path => "policy directory " ++ path ++ " is not mounted"
  | unreadableDirectory path => "cannot read policy directory " ++ path ++ ": " ++ Text.withheld
  | unreadableFile path => "cannot read policy file " ++ path ++ ": " ++ Text.withheld
  | malformedFile path => "cannot parse policy file " ++ path ++ ": " ++ Text.withheld
  | invalidCondition key action error => action.text ++ " for " ++ key.text ++ ": " ++ error.message
  | noDefinitions path => "no usable policy definitions found in " ++ path

/-- A rule set and the errors met while it was made. -/
structure Loaded where
  rules : RuleSet
  errors : List LoadError

namespace Loaded

/-- Nothing loaded. -/
def empty : Loaded := ⟨.empty, []⟩

/-- One more error. -/
def report (l : Loaded) (e : LoadError) : Loaded := { l with errors := l.errors ++ [e] }

/-- The messages of all errors, one to a line. -/
def message (l : Loaded) : String := Text.joined "\n" (l.errors.map LoadError.message)

/-- Adds the predicate of a condition, which replaces an earlier one for the same action and key; a
blank condition adds nothing. -/
def addCondition (l : Loaded) (key : Key) (action : Action) (condition : String) :
    Except Halt Loaded :=
  if Text.allBlank condition.toList then .ok l
  else
    match Predicate.compile condition with
    | .error h => .error h
    | .ok (.error e) => .ok (l.report (.invalidCondition key action e))
    | .ok (.ok p) => .ok { l with rules := l.rules.insert action key p }

/-- Adds the rules of a definition. -/
def addDefinition (l : Loaded) (scope : Scope) (d : Definition) : Except Halt Loaded := do
  let key : Key := ⟨scope, .ofApiVersion d.apiVersion d.kind⟩
  let l ← l.addCondition key .archive d.archiveWhen
  l.addCondition key .delete d.deleteWhen

/-- Adds the rules of definitions one after another. -/
def add (l : Loaded) (scope : Scope) : List Definition → Except Halt Loaded
  | [] => .ok l
  | d :: rest => do add (← l.addDefinition scope d) scope rest

/-- Adds the rules of lists of definitions one after another, each for its scope. -/
def addAll (l : Loaded) : List (Scope × List Definition) → Except Halt Loaded
  | [] => .ok l
  | (scope, definitions) :: rest => do addAll (← l.add scope definitions) rest

/-- Adds the rules of a policy file. -/
def addFile (l : Loaded) (directory : String) (file : Files.Entry) : Except Halt Loaded :=
  let path := Files.pathIn directory file.name
  match file.read with
  | .error _ => .ok (l.report (.unreadableFile path))
  | .ok contents =>
    if contents.all Text.isBlankByte then .ok l
    else
      match Definition.ofBytes? contents with
      | none => .ok (l.report (.malformedFile path))
      | some definitions => l.add (.ofFileName file.name) definitions

/-- Adds the rules of policy files one after another. -/
def addFiles (l : Loaded) (directory : String) : List Files.Entry → Except Halt Loaded
  | [] => .ok l
  | file :: rest => do addFiles (← l.addFile directory file) directory rest

end Loaded

/-- The policy files of a directory in ascending order of their names: all entries but directories
and those with names that begin with two points, by which a mounted directory is exchanged as a
whole. -/
def policyFiles (entries : List Files.Entry) : List Files.Entry :=
  Files.sortEntries (entries.filter fun e => !(e.name.startsWith ".." || e.isDirectory))

/-- The rule set of a directory, given its path and what a look into it shows. -/
def load (path : String) (listing : Files.Listing) : Except Halt Loaded :=
  if path.isEmpty then .ok (Loaded.empty.report .notConfigured)
  else
    match listing with
    | .error .notFound => .ok (Loaded.empty.report (.notMounted path))
    | .error _ => .ok (Loaded.empty.report (.unreadableDirectory path))
    | .ok entries =>
      match Loaded.empty.addFiles path (policyFiles entries) with
      | .error h => .error h
      | .ok l => .ok (if l.rules.isEmpty then l.report (.noDefinitions path) else l)

end ClusterArchive.Policy
