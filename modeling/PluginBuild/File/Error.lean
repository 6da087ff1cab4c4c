/-
# File.Error -- why the file system refuses

A refusal has a cause and names the path that was asked for.
-/
import PluginBuild.Text.Quoted

namespace PluginBuild.File

set_option autoImplicit false

open PluginBuild.Text

/-- Why a path could not be used.  That it is not permitted is left out, as permissions are. -/
inductive Cause where
  | absent
  | exists
  | notDirectory
  | isDirectory
  | nameTooLong
  | tooManyLinks
deriving DecidableEq, Repr

namespace Cause

def number : Cause → Nat
  | absent => 2
  | «exists» => 17
  | notDirectory => 20
  | isDirectory => 21
  | nameTooLong => 36
  | tooManyLinks => 40

def text : Cause → String
  | absent => "No such file or directory"
  | «exists» => "File exists"
  | notDirectory => "Not a directory"
  | isDirectory => "Is a directory"
  | nameTooLong => "File name too long"
  | tooManyLinks => "Too many levels of symbolic links"

/-- Whether asking what a path is answers "nothing" for this cause. -/
def meansNothing : Cause → Bool
  | absent | notDirectory | tooManyLinks => true
  | _ => false

end Cause

/-- A refusal and the path that it names, as it was given. -/
structure Error where
  cause : Cause
  path : String
deriving DecidableEq, Repr

def Error.message (e : Error) : String :=
  "[Errno " ++ toString e.cause.number ++ "] " ++ e.cause.text ++ ": " ++ quoted e.path

end PluginBuild.File
