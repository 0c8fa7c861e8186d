import ClusterArchive.Text.CodePoints
import ClusterArchive.Text.Utf8

/-!
# Form fields

The fields of a query: names and values with `=` between and `&` behind, a plus sign for a space,
and any byte as `%` and two hexadecimal digits. Bytes that are no text are read lossily.
-/

namespace ClusterArchive.Http.Form

/-- The bytes that a part of a query stands for. -/
def unescape : List Char → Bytes
  | '%' :: a :: b :: rest =>
    match Text.hexDigit? a, Text.hexDigit? b with
    | some x, some y => UInt8.ofNat (16 * x + y) :: unescape rest
    | _, _ => 0x25 :: unescape (a :: b :: rest)
  | '+' :: rest => 0x20 :: unescape rest
  | c :: rest => Utf8.encode [c] ++ unescape rest
  | [] => []

/-- The text that a part of a query stands for. -/
def textOf (part : List Char) : String := String.ofList (Utf8.lossy (unescape part))

/-- The fields of a query, in order. -/
def fields (query : List Char) : List (String × String) :=
  ((Text.pieces '&' query).filter (!·.isEmpty)).map fun piece =>
    (textOf (piece.takeWhile (· != '=')), textOf ((piece.dropWhile (· != '=')).drop 1))

/-- The value of a field that may be given once at most; `none` if it is given more often. -/
def single? (name : String) (fields : List (String × String)) : Option (Option String) :=
  match fields.filter (·.1 == name) with
  | [] => some none
  | [field] => some (some field.2)
  | _ => none

end ClusterArchive.Http.Form
