/-
# Text.Quoted -- text shown between quotes

Messages show a piece of text between single quotes, or between double quotes
when it holds single quotes only.  Inside, the backslash and the quote in use
follow a backslash, tab, line feed and carriage return have short escapes, and
every other unprintable character is written by its code point in two, four or
eight hexadecimal digits.
-/
import PluginBuild.Text.Printable

namespace PluginBuild.Text

set_option autoImplicit false

/-- The last `width` hexadecimal digits of `n`, in lower case. -/
def hexDigits : Nat → Nat → List Char
  | 0, _ => []
  | width + 1, n => hexDigits width (n / 16) ++ [Nat.digitChar (n % 16)]

namespace Quoted

/-- The quote put around `s`. -/
def mark (s : List Char) : Char :=
  if s.contains '\'' && !s.contains '"' then '"' else '\''

/-- One character inside the quotes `q`. -/
def encodeChar (q c : Char) : List Char :=
  if c = '\\' ∨ c = q then ['\\', c]
  else if c = '\t' then ['\\', 't']
  else if c = '\n' then ['\\', 'n']
  else if c = '\r' then ['\\', 'r']
  else if isPrintable c then [c]
  else if c.toNat < 0x100 then '\\' :: 'x' :: hexDigits 2 c.toNat
  else if c.toNat < 0x10000 then '\\' :: 'u' :: hexDigits 4 c.toNat
  else '\\' :: 'U' :: hexDigits 8 c.toNat

/-- The characters of `s` between the quotes `q`. -/
def encode (q : Char) (s : List Char) : List Char := s.flatMap (encodeChar q)

end Quoted

/-- `s` between quotes. -/
def quoted (s : String) : String :=
  let q := Quoted.mark s.toList
  String.ofList (q :: Quoted.encode q s.toList ++ [q])

/-- The texts between quotes, in brackets and separated by commas. -/
def quotedList (items : List String) : String :=
  "[" ++ ", ".intercalate (items.map quoted) ++ "]"

end PluginBuild.Text
