/-!
# Tokens

The tokens of a document. Keys and the beginning and end of collections in block style are tokens
too, although nothing in the text stands for them.
-/

namespace ClusterArchive.Yaml

/-- A tag as written: its handle and what follows it. -/
structure TagText where
  handle : String
  suffix : String
deriving DecidableEq, Repr

/-- A token. -/
inductive Token
  | versionDirective (major minor : Nat)
  | tagDirective (handle expansion : String)
  | documentStart
  | documentEnd
  | blockSequence
  | blockMapping
  | blockEnd
  | flowSequenceStart
  | flowSequenceEnd
  | flowMappingStart
  | flowMappingEnd
  | blockEntry
  | flowEntry
  | key
  | value
  | alias (name : String)
  | anchor (name : String)
  | tag (text : TagText)
  | scalar (text : String) (plain : Bool)
deriving DecidableEq, Repr

end ClusterArchive.Yaml
