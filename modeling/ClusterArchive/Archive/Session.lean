import ClusterArchive.Archive.Store

/-!
# Sessions

What an archive is asked in the course of time, and what it answers. A write changes it, a look at
it does not; closed and opened again, it is what its place keeps of it.
-/

namespace ClusterArchive.Archive

/-- A write: a resource with its payload, and the time of the call. -/
structure Write where
  resource : Resource
  raw : Bytes
  time : Nat

/-- The key that a write goes to. -/
def Write.key (w : Write) : String := archiveKey w.resource

/-- What an archive is asked. -/
inductive Request
  | write (w : Write)
  | get (key : String)
  | count
  | reopen

/-- What an archive answers. -/
inductive Reply
  | done
  | row (found : Option Row)
  | number (n : Nat)

namespace Store

/-- The archive after a request. -/
def after (p : Place) (s : Store) : Request → Store
  | .write w => s.write w.resource w.raw w.time
  | .get _ | .count => s
  | .reopen => p.reopen s

/-- The answer to a request. -/
def reply (s : Store) : Request → Reply
  | .write _ | .reopen => .done
  | .get key => .row (s.get? key)
  | .count => .number s.count

/-- The archive after requests in order. -/
def afterAll (p : Place) (s : Store) (requests : List Request) : Store := requests.foldl (after p) s

/-- The answers to requests in order. -/
def replies (p : Place) : Store → List Request → List Reply
  | _, [] => []
  | s, q :: rest => s.reply q :: replies p (s.after p q) rest

end Store

end ClusterArchive.Archive
