/-! # Sets of characters given by their boundaries

A property of characters holds on a few hundred intervals of code points. A set is written as the
increasing list of code points at which membership changes, starting from "not a member".
-/

namespace QueryRewriting.Text

/-- A set of characters, as the code points at which membership changes. -/
structure CharSet where
  bounds : List Nat

/-- A character is a member when an odd number of boundaries lie at or below it. -/
def CharSet.contains (set : CharSet) (c : Char) : Bool :=
  (set.bounds.takeWhile (· ≤ c.toNat)).length % 2 == 1

end QueryRewriting.Text
