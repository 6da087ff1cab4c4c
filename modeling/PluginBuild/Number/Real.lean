/-
# Number.Real -- numbers with a fraction in a text

A number is a sign, which may be missing, and one of the words `inf`, `infinity`
and `nan` in any case, or digits with a point and an exponent, both of which may
be missing.  Digits must stand before or after the point, and underscores between
digits only.
-/
import PluginBuild.Number.Digits
import PluginBuild.Number.Binary64

namespace PluginBuild.Number.Real

set_option autoImplicit false

open PluginBuild.Text

def optionalDigits? (s : List Char) : Option (List Nat) :=
  if s.isEmpty then some [] else digits? s

/-- The exponent that a text writes. -/
def exponent? (s : List Char) : Option Int := do
  let (negative, rest) := signed s
  let n := ofDigits (← digits? rest)
  return if negative then -(n : Int) else n

/-- Digits with a point among them: the number they make without the point, and how
many stand behind it. -/
def significand? (s : List Char) : Option (Nat × Nat) := do
  let whole ← optionalDigits? (s.takeWhile (· != '.'))
  let fraction ← match s.dropWhile (· != '.') with
    | [] => some []
    | _ :: rest => optionalDigits? rest
  if whole.isEmpty && fraction.isEmpty then none
  else return (ofDigits (whole ++ fraction), fraction.length)

/-- Whether `c` separates the digits from the exponent. -/
def isMark (c : Char) : Bool := c == 'e' || c == 'E'

def decimal? (negative : Bool) (s : List Char) : Option Binary64 := do
  let (digits, behind) ← significand? (s.takeWhile (!isMark ·))
  let exponent ← match s.dropWhile (!isMark ·) with
    | [] => some 0
    | _ :: rest => exponent? rest
  return .ofDecimal negative digits (exponent - behind)

/-- The number that a text is. -/
def parse? (s : String) : Option Binary64 :=
  let (negative, rest) := signed (unpadded s.toList)
  let word := String.ofList (rest.map Char.toLower)
  if word = "inf" ∨ word = "infinity" then some (.infinite negative)
  else if word = "nan" then some .nan
  else decimal? negative rest

end PluginBuild.Number.Real
