/-
# Directive.Token -- the tokens of a condition

A condition is written with the operators `||`, `&&`, `==`, `!=` and `!`, with
parentheses and with names of ASCII letters, digits and underscores.  White space
may stand anywhere between tokens, and the longest token is always taken.
-/
import PluginBuild.Text.Blank

namespace PluginBuild.Directive

set_option autoImplicit false

open PluginBuild.Text

inductive Token where
  | or
  | and
  | eq
  | ne
  | not
  | lparen
  | rparen
  | word (name : String)
deriving DecidableEq, Repr

/-- A token as it is written. -/
def Token.text : Token → String
  | .or => "||"
  | .and => "&&"
  | .eq => "=="
  | .ne => "!="
  | .not => "!"
  | .lparen => "("
  | .rparen => ")"
  | .word name => name

/-- Whether a name may start with `c`. -/
def isNameStart (c : Char) : Bool := c.isAlpha || c == '_'

/-- Whether `c` may stand in a name. -/
def isNameChar (c : Char) : Bool := c.isAlphanum || c == '_'

/-- Whether a text is a name. -/
def isName : List Char → Bool
  | [] => false
  | c :: rest => isNameStart c && rest.all isNameChar

theorem length_dropWhile_le {α : Type} (p : α → Bool) (l : List α) :
    (l.dropWhile p).length ≤ l.length :=
  (List.dropWhile_suffix p).length_le

/-- The tokens of a text, or what is left of the text where no token starts. -/
def Token.scan : List Char → Except (List Char) (List Token)
  | [] => .ok []
  | '|' :: '|' :: rest => (.or :: ·) <$> scan rest
  | '&' :: '&' :: rest => (.and :: ·) <$> scan rest
  | '=' :: '=' :: rest => (.eq :: ·) <$> scan rest
  | '!' :: '=' :: rest => (.ne :: ·) <$> scan rest
  | '!' :: rest => (.not :: ·) <$> scan rest
  | '(' :: rest => (.lparen :: ·) <$> scan rest
  | ')' :: rest => (.rparen :: ·) <$> scan rest
  | c :: rest =>
    if isBlank c then scan rest
    else if isNameStart c then
      (.word (String.ofList (c :: rest.takeWhile isNameChar)) :: ·)
        <$> scan (rest.dropWhile isNameChar)
    else .error (c :: rest)
termination_by s => s.length
decreasing_by
  all_goals simp only [List.length_cons]
  all_goals first
    | omega
    | exact Nat.lt_succ_of_le (length_dropWhile_le _ _)

end PluginBuild.Directive
