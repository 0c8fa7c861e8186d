import ClusterArchive.Decimal.Binary64

/-!
# Reading doubles

The text of a double: digits with a point anywhere among or around them, an exponent, a sign, or the
words for the infinities and "not a number" in any case. The double nearest to the decimal is taken.
-/

namespace ClusterArchive.Binary64

/-- The value of decimal digits. -/
def digitsValue (digits : List Char) : Nat :=
  digits.foldl (fun n d => n * 10 + (d.toNat - 0x30)) 0

/-- Removes a sign; tells whether it was a minus. -/
def takeSign : List Char → Bool × List Char
  | '-' :: rest => (true, rest)
  | '+' :: rest => (false, rest)
  | rest => (false, rest)

/-- The exponent that the whole text stands for; the empty text is no exponent. -/
def exponentOf? (text : List Char) : Option Int :=
  match text with
  | [] => some 0
  | c :: rest =>
    if c = 'e' ∨ c = 'E' then
      let (negative, digits) := takeSign rest
      if digits.isEmpty || !digits.all Char.isDigit then none
      else
        let n : Int := digitsValue digits
        some (if negative then -n else n)
    else none

/-- The double that an unsigned decimal stands for. -/
def ofDecimalText? (negative : Bool) (text : List Char) : Option Binary64 :=
  let whole := text.takeWhile Char.isDigit
  let rest := text.drop whole.length
  let (fraction, rest) := match rest with
    | '.' :: rest => (rest.takeWhile Char.isDigit, rest.dropWhile Char.isDigit)
    | _ => ([], rest)
  if whole.isEmpty && fraction.isEmpty then none
  else
    (exponentOf? rest).map fun e =>
      .ofDecimal negative (digitsValue (whole ++ fraction)) (e - (fraction.length : Nat))

/-- The double that the whole text stands for. -/
def ofText? (text : List Char) : Option Binary64 :=
  let (negative, rest) := takeSign text
  match String.ofList (rest.map Char.toLower) with
  | "inf" | "infinity" => some (infinity negative)
  | "nan" => some nan
  | _ => ofDecimalText? negative rest

end ClusterArchive.Binary64
