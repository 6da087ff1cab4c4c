/-
# Number.Binary64 -- numbers of binary64, as exact values

A finite number is a sign and a magnitude `mantissa * 2 ^ exponent`, with the
mantissa below 2^53 and the exponent from -1074 to 971.  `ofRatio` takes the
number nearest to a quotient of naturals, the even mantissa of two equally near
ones, and infinity beyond the greatest; it works on naturals alone.
-/
namespace PluginBuild.Number

set_option autoImplicit false

inductive Binary64 where
  | nan
  | infinite (negative : Bool)
  | finite (negative : Bool) (mantissa : Nat) (exponent : Int)
deriving DecidableEq, Repr

namespace Binary64

def minExponent : Int := -1074

def maxExponent : Int := 971

/-- The quotient of two naturals rounded to the nearest, and to the even one of two
equally near naturals. -/
def roundDiv (num den : Nat) : Nat :=
  let q := num / den
  let r := num % den
  if 2 * r < den then q else if den < 2 * r then q + 1 else q + q % 2

/-- `num / den` over `base ^ exponent`, as a quotient of naturals. -/
def scaled (base num den : Nat) (exponent : Int) : Nat × Nat :=
  (num * Nat.pow base (-exponent).toNat, den * Nat.pow base exponent.toNat)

/-- The exponent at which the quotient has a mantissa of 53 bits, or the least. -/
def exponentFor (num den : Nat) : Int :=
  let guess : Int := (num.log2 : Int) - den.log2 - 52
  let (n, d) := scaled 2 num den guess
  max minExponent (if n < Nat.pow 2 52 * d then guess - 1 else guess)

/-- The number nearest to `num / den`, with a sign. -/
def ofRatio (negative : Bool) (num den : Nat) : Binary64 :=
  if num = 0 then finite negative 0 minExponent
  else
    let e := exponentFor num den
    let (n, d) := scaled 2 num den e
    let m := roundDiv n d
    let (m, e) := if m = Nat.pow 2 53 then (Nat.pow 2 52, e + 1) else (m, e)
    if maxExponent < e then infinite negative else finite negative m e

/-- The number nearest to `digits * 10 ^ exponent`, with a sign.  Far beyond the
range of the exponents the power is not computed. -/
def ofDecimal (negative : Bool) (digits : Nat) (exponent : Int) : Binary64 :=
  let magnitude := exponent + (Nat.toDigits 10 digits).length
  if digits = 0 then finite negative 0 minExponent
  else if 400 < magnitude then infinite negative
  else if magnitude < -400 then finite negative 0 minExponent
  else ofRatio negative (digits * Nat.pow 10 exponent.toNat) (Nat.pow 10 (-exponent).toNat)

/-- The magnitude of a finite number, as a quotient of naturals. -/
def ratio (mantissa : Nat) (exponent : Int) : Nat × Nat :=
  (mantissa * Nat.pow 2 exponent.toNat, Nat.pow 2 (-exponent).toNat)

/-- Whether a number is less than zero. -/
def isNegative : Binary64 → Bool
  | nan => false
  | infinite negative => negative
  | finite negative mantissa _ => negative && mantissa != 0

end Binary64

end PluginBuild.Number
