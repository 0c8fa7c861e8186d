import ClusterArchive.Decimal.Binary64

/-!
# Structured values

The value that a decoded object, a log line or a section of a resource is. An object lists its
members in ascending order of their names, each name once, so two objects with the same members are
the same value whatever the order they were written in.
-/

namespace ClusterArchive.Json

/-- A number: whole, between `-2 ^ 63` and `2 ^ 64 - 1`, or a double. -/
inductive Number
  | integer (value : Int)
  | double (value : Binary64)
deriving DecidableEq, Repr

/-- A structured value. -/
inductive Value
  | null
  | bool (value : Bool)
  | number (value : Number)
  | string (value : String)
  | array (items : List Value)
  | object (members : List (String × Value))
deriving Repr, Inhabited

/-- Members of an object with one more, which replaces a member of the same name. -/
def insertMember {α : Type} (name : String) (value : α) : List (String × α) → List (String × α)
  | [] => [(name, value)]
  | (n, v) :: rest =>
    if name < n then (name, value) :: (n, v) :: rest
    else if name = n then (name, value) :: rest
    else (n, v) :: insertMember name value rest

/-- The member of the given name. -/
def lookupMember? {α : Type} (name : String) (members : List (String × α)) : Option α :=
  (members.find? (·.1 == name)).map (·.2)

namespace Value

/-- An object from its members in the order of writing; of two with one name the later stays. -/
def ofMembers (members : List (String × Value)) : Value :=
  .object (members.foldl (fun sorted m => insertMember m.1 m.2 sorted) [])

/-- The member of the given name; a value that is no object has none. -/
def get? (name : String) : Value → Option Value
  | .object members => lookupMember? name members
  | _ => none

/-- The text of a string value. -/
def asString? : Value → Option String
  | .string s => some s
  | _ => none

/-- Whether the value is an object. -/
def isObject : Value → Bool
  | .object _ => true
  | _ => false

/-- The string at the end of a path of member names. -/
def stringAt? : List String → Value → Option String
  | [], v => v.asString?
  | name :: path, v => (v.get? name).bind (stringAt? path)

end Value

end ClusterArchive.Json
