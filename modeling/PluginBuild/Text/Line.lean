/-
# Text.Line -- cutting a text into lines

A line ends at a line feed, a carriage return, the pair of the two, a vertical
tab, a form feed, one of the separators U+001C to U+001E, U+0085, U+2028 or
U+2029, and keeps the characters that end it.  Putting the lines together again
gives the text back (`flatten_lines`).
-/
import PluginBuild.Text.CharClass
import PluginBuild.Text.Split

namespace PluginBuild.Text

set_option autoImplicit false

/-- The characters that end a line. -/
def lineEnds : CharClass where
  ranges := [(0xA, 0xD), (0x1C, 0x1E), (0x85, 0x85), (0x2028, 0x2029)]

/-- Whether `c` ends a line. -/
def isLineEnd (c : Char) : Bool := lineEnds.contains c

/-- The lines of a text, each with the characters that end it. -/
def lines : List Char → List (List Char)
  | [] => []
  | '\r' :: '\n' :: rest => ['\r', '\n'] :: lines rest
  | c :: rest => if isLineEnd c then [c] :: lines rest else consToFirst c (lines rest)

/-- No character is lost or added by cutting a text into lines. -/
theorem flatten_lines (s : List Char) : (lines s).flatten = s := by
  fun_induction lines s with
  | case1 => rfl
  | case2 rest ih => simp [ih]
  | case3 c rest _ _ ih => simp [ih]
  | case4 c rest _ _ ih => rw [flatten_consToFirst, ih]

/-- A line without the characters that end it. -/
def withoutEnd (line : List Char) : List Char :=
  (line.reverse.dropWhile isLineEnd).reverse

/-- The lines of a text without their ends, joined by single spaces. -/
def joinLines (s : String) : String :=
  " ".intercalate ((lines s.toList).map fun line => String.ofList (withoutEnd line))

/-- Turns every carriage return, alone or before a line feed, into one line feed. -/
def normalizeNewlines : List Char → List Char
  | [] => []
  | '\r' :: '\n' :: rest => '\n' :: normalizeNewlines rest
  | c :: rest => (if c = '\r' then '\n' else c) :: normalizeNewlines rest

end PluginBuild.Text
