/-
# Source.FrontEnd -- what the library asks of the script language

The language itself is behind `FrontEnd`: it turns source text into a tree and a
tree into a body that can be executed, issues warnings on the way, and may raise an
exception instead.  What matters of an exception is the name of its class, its text
and, for a syntax error, its place.
-/
import PluginBuild.Text.Quoted

namespace PluginBuild

set_option autoImplicit false

/-- A parsed source: the text that was parsed and where it came from. -/
structure Tree where
  path : String
  text : String
deriving DecidableEq, Repr

/-- What a module does when it is executed: it imports modules of its library by
name and then perhaps fails with a text. -/
structure Body where
  imports : List String
  failure : Option String
deriving DecidableEq, Repr

/-- An exception that the language raised. -/
structure Raised where
  kind : String
  text : Option String
  line : Option Int
  column : Option Int
  endLine : Option Int
  endColumn : Option Int
deriving DecidableEq, Repr

namespace Raised

/-- An exception that has a text but no place. -/
def plain (kind : String) (text : Option String) : Raised := ⟨kind, text, none, none, none, none⟩

/-- The classes that go by another name. -/
def aliases : List (String × String) := [("EnvironmentError", "OSError"), ("IOError", "OSError")]

/-- What making an exception of a class takes, where it is more than a text. -/
def makerTakes? (kind : String) : Option (String × Nat) :=
  match kind with
  | "UnicodeDecodeError" | "UnicodeEncodeError" => some ("function", 5)
  | "UnicodeTranslateError" => some ("function", 4)
  | "BaseExceptionGroup" | "ExceptionGroup" => some ("BaseExceptionGroup.__new__()", 2)
  | _ => none

/-- The exception that comes of raising a class with a text or with nothing. -/
def ofClass (kind : String) (text : Option String) : Raised :=
  match makerTakes? kind with
  | some (maker, arguments) =>
    plain "TypeError" (some (maker ++ " takes exactly " ++ toString arguments ++ " arguments ("
      ++ toString text.toList.length ++ " given)"))
  | none => plain ((aliases.lookup kind).getD kind) text

/-- Whether an exception is a syntax error. -/
def isSyntax (r : Raised) : Bool := ["SyntaxError", "IndentationError", "TabError"].contains r.kind

/-- Whether an exception says that the source cannot be handled, so that it is
reported and not passed on. -/
def isContained (r : Raised) : Bool :=
  ["RecursionError", "MemoryError", "ValueError", "UnicodeError", "UnicodeDecodeError",
    "UnicodeEncodeError", "UnicodeTranslateError"].contains r.kind

/-- Whether an exception says that a stream has ended. -/
def isEndOfInput (r : Raised) : Bool := r.kind == "EOFError"

/-- The message of an exception; a missing key is shown quoted. -/
def message (r : Raised) : String :=
  match r.text with
  | none => ""
  | some text => if r.kind = "KeyError" then Text.quoted text else text

end Raised

structure Warning where
  message : String
  line : Option Int
deriving DecidableEq, Repr

/-- What the language answers: warnings, and a result or an exception. -/
structure Reaction (α : Type) where
  warnings : List Warning
  result : Except Raised α

structure LanguageVersion where
  major : Int
  minor : Int
deriving DecidableEq, Repr

structure FrontEnd where
  /-- parses the text of a path for a version of the language -/
  parse : String → String → Option LanguageVersion → Reaction Tree
  /-- compiles a tree under a path at a level of optimisation -/
  compile : Tree → String → Int → Reaction Body

end PluginBuild
