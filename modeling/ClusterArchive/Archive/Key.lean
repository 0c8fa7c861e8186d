import ClusterArchive.Resource.View

/-!
# Archive keys

A resource is archived under its uid, or under type, namespace and name if it has none.
-/

namespace ClusterArchive

/-- The key that a resource is archived under. -/
def archiveKey (r : Resource) : String :=
  if r.identity.uid.isEmpty then
    r.identity.gvk.text ++ "/" ++ r.identity.namespace_ ++ "/" ++ r.identity.name
  else r.identity.uid

end ClusterArchive
