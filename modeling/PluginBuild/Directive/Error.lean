/-
# Directive.Error -- what can be wrong with a directive

A fault says what is wrong; an error adds the line on which it was found.
-/
import PluginBuild.Directive.Token
import PluginBuild.Text.Quoted

namespace PluginBuild.Directive

set_option autoImplicit false

open PluginBuild.Text

/-- What can be wrong with a directive. -/
inductive Fault where
  /-- a text at which no token starts -/
  | unexpectedText (text : String)
  /-- a condition without tokens -/
  | missingCondition
  /-- a condition that ends where an operand or a parenthesis is due -/
  | incompleteCondition
  /-- a token that is no operator before the closing parenthesis -/
  | expectedClosing
  /-- a token that can stand neither here nor at the end of a condition -/
  | unexpectedToken (token : Token)
  /-- a defined or undefined text that is no name, or a constant -/
  | invalidName (text : String)
  | elifOutside
  | elseOutside
  | endifOutside
  /-- a group that the text does not close -/
  | unclosed
deriving DecidableEq, Repr

def Fault.message : Fault → String
  | .unexpectedText text => "Unexpected character in directive: " ++ quoted text
  | .missingCondition => "Missing directive expression"
  | .incompleteCondition => "Incomplete directive expression"
  | .expectedClosing => "Expected ')'"
  | .unexpectedToken token => "Unexpected token in directive: " ++ quoted token.text
  | .invalidName text => "Invalid symbol name: " ++ quoted text
  | .elifOutside => "#elif without matching #if"
  | .elseOutside => "#else without matching #if"
  | .endifOutside => "#endif without matching #if"
  | .unclosed => "#if without matching #endif"

/-- A fault and the line it was found on. -/
structure Error where
  fault : Fault
  line : Int
deriving DecidableEq, Repr

def Error.message (e : Error) : String := e.fault.message

end PluginBuild.Directive
