/-
# Number.Integer -- whole numbers in a text

A whole number is a sign, which may be missing, and digits.  More digits than
`Integer.maxDigits` are refused, so that reading takes bounded work.
-/
import PluginBuild.Number.Digits

namespace PluginBuild.Number.Integer

set_option autoImplicit false

/-- The most digits that a number may have. -/
def maxDigits : Nat := 4300

/-- The whole number that a text is. -/
def parse? (s : String) : Option Int := do
  let (negative, rest) := signed (unpadded s.toList)
  let digits ← digits? rest
  if digits.length ≤ maxDigits then
    return if negative then -(ofDigits digits : Int) else ofDigits digits
  else none

end PluginBuild.Number.Integer
