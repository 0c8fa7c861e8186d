import ClusterArchive.Decimal.Text
import ClusterArchive.Decimal.Word
import ClusterArchive.Json.Value
import ClusterArchive.Text.CodePoints

/-!
# What plain scalars stand for

A plain scalar stands for null, a truth value, a number or a text, in this order. Whole numbers may
be written in base 16, 8 or 2; digits behind a leading zero make a text. A whole number that 64 bits
do not hold is refused as long as 128 bits hold it, and is a double beyond that.
-/

namespace ClusterArchive.Yaml

open Json (Value Number)

/-- The value of digits in a base up to 16, of which there has to be one. -/
def valueInBase? (base : Nat) (digits : List Char) : Option Nat :=
  if digits.isEmpty then none
  else
    digits.foldl (fun n d => n.bind fun n =>
      (Text.hexDigit? d).bind fun v => if v < base then some (n * base + v) else none) (some 0)

/-- The value of digits behind the mark of their base. -/
def markedValue? (text : List Char) : Option Nat :=
  match text with
  | '0' :: 'x' :: rest => valueInBase? 16 rest
  | '0' :: 'o' :: rest => valueInBase? 8 rest
  | '0' :: 'b' :: rest => valueInBase? 2 rest
  | _ => none

/-- The text without one leading sign. -/
def withoutSign : List Char → List Char
  | '-' :: rest => rest
  | '+' :: rest => rest
  | rest => rest

/-- Whether the text is a zero and more digits. -/
def zeroLed (text : List Char) : Bool :=
  match withoutSign text with
  | '0' :: rest => !rest.isEmpty && rest.all Char.isDigit
  | _ => false

/-- The whole number that a text stands for. -/
def integer? (text : List Char) : Option Int :=
  match text with
  | '-' :: rest =>
    (markedValue? rest).or (if zeroLed text then none else valueInBase? 10 rest) |>.map fun n =>
      -(n : Int)
  | _ =>
    let rest := match text with
      | '+' :: rest => rest
      | _ => text
    (markedValue? rest).or (if zeroLed text then none else valueInBase? 10 rest) |>.map fun n =>
      (n : Int)

/-- What becomes of a whole number. -/
inductive IntegerSize
  | fits (i : Int)
  | refused
  | beyond

/-- Sorts a whole number by the bits it needs. -/
def integerSize (i : Int) : IntegerSize :=
  if Word.holdsSigned i || Word.holdsUnsigned i then .fits i
  else if -0x80000000000000000000000000000000 ≤ i ∧ i < 0x100000000000000000000000000000000 then
    .refused
  else .beyond

/-- The double that a text stands for; texts beyond the largest double stand for none. -/
def double? (text : List Char) : Option Binary64 :=
  let unsigned := match text with
    | '+' :: rest => rest
    | _ => text
  let named : Option Binary64 :=
    match String.ofList unsigned, String.ofList text with
    | ".inf", _ | ".Inf", _ | ".INF", _ => some (.infinity false)
    | _, "-.inf" | _, "-.Inf" | _, "-.INF" => some (.infinity true)
    | _, ".nan" | _, ".NaN" | _, ".NAN" => some .nan
    | _, _ => none
  match named with
  | some x => some x
  | none =>
    let twice := match text with
      | '+' :: '+' :: _ | '+' :: '-' :: _ => true
      | _ => false
    if twice then none
    else (Binary64.ofText? unsigned).bind fun x => if x.isFinite then some x else none

/-- A double as a value; one that is not finite is null. -/
def doubleValue (x : Binary64) : Value := if x.isFinite then .number (.double x) else .null

/-- Whether the text is a word for null. -/
def isNullWord (text : String) : Bool := ["null", "Null", "NULL", "~"].contains text

/-- The truth value that a text is a word for. -/
def boolWord? (text : String) : Option Bool :=
  if ["true", "True", "TRUE"].contains text then some true
  else if ["false", "False", "FALSE"].contains text then some false
  else none

/-- The double or else the text that a plain scalar stands for. -/
def doubleOrText (text : String) : Value :=
  if zeroLed text.toList then .string text
  else
    match double? text.toList with
    | some x => doubleValue x
    | none => .string text

/-- What a plain scalar without a tag stands for; `none` if it is refused. -/
def plainValue? (text : String) : Option Value :=
  if text.isEmpty || isNullWord text then some .null
  else
    match boolWord? text with
    | some b => some (.bool b)
    | none =>
      match integer? text.toList with
      | none => some (doubleOrText text)
      | some i =>
        match integerSize i with
        | .fits i => some (.number (.integer i))
        | .refused => none
        | .beyond => some (doubleOrText text)

/-- What a scalar with a tag stands for. A tag of the document's own is refused, and so is text that
does not fit its tag. -/
def taggedValue? (tag text : String) : Option Value :=
  if tag.startsWith "!" then none
  else
    match tag with
    | "tag:yaml.org,2002:bool" => (boolWord? text).map .bool
    | "tag:yaml.org,2002:int" =>
      match (integer? text.toList).map integerSize with
      | some (.fits i) => some (.number (.integer i))
      | _ => none
    | "tag:yaml.org,2002:float" => (double? text.toList).map doubleValue
    | "tag:yaml.org,2002:null" => if isNullWord text then some .null else none
    | _ => some (.string text)

/-- What a scalar stands for. -/
def scalarValue? (tag : Option String) (text : String) (plain : Bool) : Option Value :=
  match tag with
  | some t => taggedValue? t text
  | none => if plain then plainValue? text else some (.string text)

end ClusterArchive.Yaml
