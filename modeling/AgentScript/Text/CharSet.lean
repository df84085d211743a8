set_option autoImplicit false

/-! # Sets of characters

Character classes beyond ASCII are tables: inclusive ranges of code points in ascending order.
Membership is the only question asked of them. -/

namespace AgentScript.Text

/-- A set of characters, as inclusive ranges of code points. -/
structure CharSet where
  ranges : List (Nat × Nat)

/-- Whether the code point of `c` lies in one of the ranges. -/
def CharSet.contains (s : CharSet) (c : Char) : Bool :=
  s.ranges.any fun r => r.1 ≤ c.toNat && c.toNat ≤ r.2

end AgentScript.Text
