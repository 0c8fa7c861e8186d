/-!
# Whole numbers of 64 bits

The bounds that whole numbers keep within, with and without a sign.
-/

namespace ClusterArchive.Word

/-- The least number with a sign, `-2 ^ 63`. -/
def least : Int := -0x8000000000000000

/-- The greatest number with a sign, `2 ^ 63 - 1`. -/
def greatest : Int := 0x7FFFFFFFFFFFFFFF

/-- The greatest number without a sign, `2 ^ 64 - 1`. -/
def greatestUnsigned : Int := 0xFFFFFFFFFFFFFFFF

/-- How many numbers there are. -/
def count : Nat := 0x10000000000000000

/-- Whether a number is one with a sign. -/
def holdsSigned (i : Int) : Bool := decide (least ≤ i ∧ i ≤ greatest)

/-- Whether a number is one without a sign. -/
def holdsUnsigned (i : Int) : Bool := decide (0 ≤ i ∧ i ≤ greatestUnsigned)

end ClusterArchive.Word
