/-
# Number.Shortest -- the fewest digits that read back

A number is written with as few significant digits as single it out: for one
digit, two, and so on, the two decimals around the value are tried, and the first
that rounds to the number wins; of two the nearer, and the even one at a tie.
`Layout` says how the digits are then set out.
-/
import PluginBuild.Number.Binary64

namespace PluginBuild.Number.Shortest

set_option autoImplicit false

/-- Whether a decimal `d * 10 ^ p` rounds to `mantissa * 2 ^ exponent`, which is not
zero.  The interval of such decimals reaches half a step up and down, but only a
quarter down where the exponent changes; its ends belong to it when the mantissa is
even. -/
def roundsTo (mantissa : Nat) (exponent : Int) (d : Nat) (p : Int) : Bool :=
  let below := if mantissa = Nat.pow 2 52 ∧ Binary64.minExponent < exponent then 1 else 2
  let decimal := 4 * d * Nat.pow 10 p.toNat * Nat.pow 2 (-exponent).toNat
  let limit (n : Nat) := n * Nat.pow 2 exponent.toNat * Nat.pow 10 (-p).toNat
  let low := limit (4 * mantissa - below)
  let high := limit (4 * mantissa + 2)
  if mantissa % 2 = 0 then decide (low ≤ decimal) && decide (decimal ≤ high)
  else decide (low < decimal) && decide (decimal < high)

/-- How many digits stand before the point of a quotient, or the negated count of
zeros after the point. -/
def pointPosition (num den : Nat) : Int :=
  if den ≤ num then (Nat.toDigits 10 (num / den)).length
  else 1 - ((Nat.toDigits 10 ((den + num - 1) / num - 1)).length : Int)

/-- A decimal of `count` digits that rounds to the number, with its power of ten. -/
def candidate? (mantissa : Nat) (exponent : Int) (count : Nat) : Option (Nat × Int) :=
  let (num, den) := Binary64.ratio mantissa exponent
  let p := pointPosition num den - count
  let (n, d) := Binary64.scaled 10 num den p
  let down := n / d
  let up := down + 1
  let nearest := Binary64.roundDiv n d
  let other := if nearest = down then up else down
  if roundsTo mantissa exponent nearest p then some (nearest, p)
  else if roundsTo mantissa exponent other p then some (other, p)
  else none

/-- The decimal with the fewest digits, with its power of ten; seventeen always
suffice. -/
def decimal (mantissa : Nat) (exponent : Int) : Nat × Int :=
  ((List.range 17).findSome? fun k => candidate? mantissa exponent (k + 1)).getD (0, 0)

/-- How the digits of a number are set out. -/
structure Layout where
  /-- the point stands among the digits or after zeros where its position is above
  the first bound and at most the second; elsewhere an exponent is written -/
  positionalAbove : Int
  positionalTo : Int
  /-- what follows a whole number -/
  wholeEnding : String
  exponentMark : String
  /-- the least count of digits of the exponent -/
  exponentWidth : Nat
  infinity : String
  nan : String

/-- Digits without the zeros at their end, and how many zeros those were. -/
def dropZeros (digits : List Char) : List Char × Nat :=
  let kept := (digits.reverse.dropWhile (· == '0')).reverse
  (kept, digits.length - kept.length)

/-- A natural in at least `width` digits. -/
def padded (width n : Nat) : String :=
  let s := toString n
  "".pushn '0' (width - s.length) ++ s

/-- Digits with a point at a position. -/
def Layout.place (l : Layout) (digits : List Char) (position : Int) : String :=
  if position ≤ l.positionalAbove ∨ l.positionalTo < position then
    let tail := digits.drop 1
    let fraction := if tail.isEmpty then "" else "." ++ String.ofList tail
    let e := position - 1
    String.ofList (digits.take 1) ++ fraction ++ l.exponentMark ++ (if e < 0 then "-" else "+")
      ++ padded l.exponentWidth e.natAbs
  else if position ≤ 0 then
    "0." ++ String.ofList (List.replicate position.natAbs '0' ++ digits)
  else
    let n := position.toNat
    if digits.length ≤ n then
      String.ofList (digits ++ List.replicate (n - digits.length) '0') ++ l.wholeEnding
    else String.ofList (digits.take n) ++ "." ++ String.ofList (digits.drop n)

def Layout.text (l : Layout) : Binary64 → String
  | .nan => l.nan
  | .infinite negative => (if negative then "-" else "") ++ l.infinity
  | .finite negative mantissa exponent =>
    let sign := if negative then "-" else ""
    if mantissa = 0 then sign ++ l.place ['0'] 1
    else
      let (d, p) := decimal mantissa exponent
      let all := Nat.toDigits 10 d
      sign ++ l.place (dropZeros all).1 (p + all.length)

end PluginBuild.Number.Shortest
