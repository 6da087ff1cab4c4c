/-
# Text.Blank -- white space and trimming

White space is the Unicode property of that name together with the four
information separators U+001C to U+001F.  Trimming drops it from one end of a
text or from both.
-/
import PluginBuild.Text.CharClass

namespace PluginBuild.Text

set_option autoImplicit false

def blanks : CharClass where
  ranges :=
    [(0x9, 0xD), (0x1C, 0x20), (0x85, 0x85), (0xA0, 0xA0), (0x1680, 0x1680),
     (0x2000, 0x200A), (0x2028, 0x2029), (0x202F, 0x202F), (0x205F, 0x205F),
     (0x3000, 0x3000)]

/-- Whether `c` is white space. -/
def isBlank (c : Char) : Bool := blanks.contains c

/-- A text without the white space at its start. -/
def trimStart (s : List Char) : List Char := s.dropWhile isBlank

/-- A text without the white space at its end. -/
def trimEnd (s : List Char) : List Char := (s.reverse.dropWhile isBlank).reverse

/-- A text without the white space at its two ends. -/
def trim (s : List Char) : List Char := trimEnd (trimStart s)

end PluginBuild.Text
