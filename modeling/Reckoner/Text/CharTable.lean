/-!
Contract: classes of characters given by ranges of code points.

Owns: the table type and its look-up.

Does not own: any particular class.
-/

namespace Reckoner.Text

/-- A class of characters: ranges of code points in ascending order, each with
its first and its last member. -/
structure CharTable where
  ranges : List (Nat × Nat)

namespace CharTable

/-- Whether a code point lies in one of the ranges. The search stops at the
first range that begins after it. -/
def covers (code : Nat) : List (Nat × Nat) → Bool
  | [] => false
  | (first, last) :: rest =>
      if code < first then false
      else if code ≤ last then true
      else covers code rest

/-- Whether the class holds the character. -/
def contains (table : CharTable) (character : Char) : Bool :=
  covers character.toNat table.ranges

end CharTable

end Reckoner.Text
