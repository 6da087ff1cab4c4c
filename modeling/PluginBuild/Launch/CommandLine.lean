/-
# Launch.CommandLine -- a list of arguments as one line

In a line every argument stands in double quotes, with a backslash before each
character that a shell would take for something else.  A line is split at blanks
that are outside quotes; a backslash, in quotes or not, makes the next character an
ordinary one.
-/
namespace PluginBuild.CommandLine

set_option autoImplicit false

/-- The characters that a shell interprets. -/
def special : List Char := "`~!#$&*()\t\x7b\x7d[]|\\;'\"\n<>? =".toList

/-- A character as it stands in a line. -/
def escapeChar (c : Char) : List Char := if special.contains c then ['\\', c] else [c]

/-- An argument as it stands in a line. -/
def quote (argument : String) : String :=
  String.ofList ('"' :: argument.toList.flatMap escapeChar ++ ['"'])

def ofArguments (arguments : List String) : String := " ".intercalate (arguments.map quote)

/-- Why a line cannot be split. -/
inductive Fault where
  /-- a backslash at the end -/
  | danglingEscape
  | unterminatedQuote
deriving DecidableEq, Repr

def Fault.message : Fault → String
  | .danglingEscape => "Command line ends with a dangling escape"
  | .unterminatedQuote => "Command line has an unterminated quote"

/-- How far the splitting of a line has come. -/
structure Reading where
  /-- the arguments that are complete -/
  arguments : List String
  /-- the argument being read, if one has begun -/
  current : Option (List Char)
  inQuotes : Bool
  /-- whether the last character was a backslash that counts -/
  escaped : Bool
deriving DecidableEq, Repr

namespace Reading

def start : Reading := ⟨[], none, false, false⟩

/-- The argument being read, so far. -/
def begun (r : Reading) : List Char := r.current.getD []

/-- The arguments with the one being read. -/
def finished (r : Reading) : List String :=
  r.arguments ++ (r.current.map String.ofList).toList

def isSeparator (c : Char) : Bool := c == ' ' || c == '\t' || c == '\n'

def next (r : Reading) (c : Char) : Reading :=
  if r.escaped then { r with current := some (r.begun ++ [c]), escaped := false }
  else if c = '\\' then { r with current := some r.begun, escaped := true }
  else if c = '"' then { r with current := some r.begun, inQuotes := !r.inQuotes }
  else if isSeparator c && !r.inQuotes then { r with arguments := r.finished, current := none }
  else { r with current := some (r.begun ++ [c]) }

/-- The arguments of a line that has been read. -/
def result (r : Reading) : Except Fault (List String) :=
  if r.escaped then .error .danglingEscape
  else if r.inQuotes then .error .unterminatedQuote
  else .ok r.finished

end Reading

/-- The arguments that a line holds. -/
def split (line : String) : Except Fault (List String) :=
  (line.toList.foldl Reading.next .start).result

end PluginBuild.CommandLine
