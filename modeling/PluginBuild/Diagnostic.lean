/-
# Diagnostic -- what a compilation has to say

A diagnostic is a message with a severity, perhaps a code and perhaps a place.  It
is shown as one line: the place, the severity and code, and the message with its
lines joined.  Only a diagnostic without any message cannot be shown.
-/
import PluginBuild.Text.Line

namespace PluginBuild

set_option autoImplicit false

/-- A place in a file; zero stands for what is not known. -/
structure Location where
  file : String
  line : Int
  column : Int
  endLine : Int
  endColumn : Int
deriving DecidableEq, Repr

/-- A whole file as a place. -/
def Location.ofFile (file : String) : Location := ⟨file, 0, 0, 0, 0⟩

structure Diagnostic where
  severity : String
  code : String
  message : Option String
  location : Option Location
deriving DecidableEq, Repr

namespace Diagnostic

def errorSeverity : String := "error"

def warningSeverity : String := "warning"

def error (code : String) (message : Option String) (location : Location) : Diagnostic :=
  ⟨errorSeverity, code, message, some location⟩

/-- Whether a diagnostic is an error; the case of its severity does not matter. -/
def isError (d : Diagnostic) : Bool := d.severity.toList.map Char.toLower == errorSeverity.toList

def errors (ds : List Diagnostic) : List Diagnostic := ds.filter isError

/-- The place in front of a line.  Columns count from one. -/
def place : Option Location → String
  | none => ""
  | some l =>
    if 0 < l.line then
      l.file ++ "(" ++ toString l.line ++ "," ++ toString (max l.column 1) ++ "): "
    else l.file ++ ": "

/-- The line that shows a diagnostic, if it has a message. -/
def line? (d : Diagnostic) : Option String :=
  d.message.map fun message =>
    place d.location ++ d.severity ++ (if d.code = "" then "" else " " ++ d.code) ++ ": "
      ++ Text.joinLines message

end Diagnostic

end PluginBuild
