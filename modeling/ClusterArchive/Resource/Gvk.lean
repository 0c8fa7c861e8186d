import ClusterArchive.Text.Pieces

/-!
# Resource types

A resource type is named by its group, version and kind. Group and version are written together as
the `apiVersion` of a resource, `v1` in the core group and `group/v1` in any other; an `apiVersion`
with more slashes names neither.
-/

namespace ClusterArchive

/-- Group, version and kind of a resource; the core group is empty. -/
structure Gvk where
  group : String
  version : String
  kind : String
deriving DecidableEq, Repr

namespace Gvk

/-- The type named by an `apiVersion` and a kind. -/
def ofApiVersion (apiVersion kind : String) : Gvk :=
  match Text.pieces '/' apiVersion.toList with
  | [version] => ⟨"", String.ofList version, kind⟩
  | [group, version] => ⟨String.ofList group, String.ofList version, kind⟩
  | _ => ⟨"", "", kind⟩

/-- Group and version as an `apiVersion`. -/
def apiVersion (g : Gvk) : String :=
  if g.group.isEmpty then g.version else g.group ++ "/" ++ g.version

/-- The type as text, kind last. -/
def text (g : Gvk) : String := g.apiVersion ++ "/" ++ g.kind

end Gvk

end ClusterArchive
