/-
# Number.Digits -- runs of digits in a text

Numbers may be written with the decimal digits of any script, and a single
underscore may stand between two digits.  White space around a number is ignored;
the information separators, white space elsewhere, are not.
-/
import PluginBuild.Text.Digit
import PluginBuild.Text.CharClass

namespace PluginBuild.Number

set_option autoImplicit false

open PluginBuild.Text

/-- The characters that may surround a number. -/
def padding : CharClass where
  ranges :=
    [(0x9, 0xD), (0x20, 0x20), (0x85, 0x85), (0xA0, 0xA0), (0x1680, 0x1680),
     (0x2000, 0x200A), (0x2028, 0x2029), (0x202F, 0x202F), (0x205F, 0x205F),
     (0x3000, 0x3000)]

/-- A text without the padding at its two ends. -/
def unpadded (s : List Char) : List Char :=
  (((s.dropWhile padding.contains).reverse).dropWhile padding.contains).reverse

/-- Whether a number starts with a minus sign, and the text after its sign. -/
def signed : List Char → Bool × List Char
  | '-' :: rest => (true, rest)
  | '+' :: rest => (false, rest)
  | s => (false, s)

/-- The values of the digits that make up a whole text, which has at least one. -/
def digits? : List Char → Option (List Nat)
  | [] => none
  | [c] => (digitValue c).map ([·])
  | c :: '_' :: rest => do return (← digitValue c) :: (← digits? rest)
  | c :: rest => do return (← digitValue c) :: (← digits? rest)

/-- The number with the given digits, most significant first. -/
def ofDigits (digits : List Nat) : Nat := digits.foldl (fun n d => 10 * n + d) 0

end PluginBuild.Number
