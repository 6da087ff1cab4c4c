/-
# Text.CharClass -- classes of characters as ranges of code points

A class is the list of the closed code point ranges that make it up.  Membership
is decided by looking the code point up in the ranges (`contains_iff`), so a
class read off a published property table needs no further code.
-/
namespace PluginBuild.Text

set_option autoImplicit false

/-- A class of characters, given by the closed code point ranges in it. -/
structure CharClass where
  ranges : List (Nat × Nat)

namespace CharClass

/-- Whether `c` lies in one of the ranges. -/
def contains (k : CharClass) (c : Char) : Bool :=
  k.ranges.any fun r => decide (r.1 ≤ c.toNat) && decide (c.toNat ≤ r.2)

theorem contains_iff (k : CharClass) (c : Char) :
    k.contains c = true ↔ ∃ r ∈ k.ranges, r.1 ≤ c.toNat ∧ c.toNat ≤ r.2 := by
  simp [contains]

end CharClass

end PluginBuild.Text
