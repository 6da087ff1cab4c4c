/-
# Wire.Action -- what the host asks of the helper

The host sends frames: the code of an action, then the strings that the action
takes.  Which strings follow is fixed by the action alone, so a reader always
knows where the next frame starts.
-/
import PluginBuild.Wire.Value

namespace PluginBuild.Wire

set_option autoImplicit false

inductive Action where
  | addSymbol
  | addSource
  | addReference
  | enableShim
  | compile
  | finish
deriving DecidableEq, Repr

namespace Action

/-- All actions in the order of their codes. -/
def all : List Action := [addSymbol, addSource, addReference, enableShim, compile, finish]

def code : Action → Int
  | addSymbol => 0
  | addSource => 1
  | addReference => 2
  | enableShim => 3
  | compile => 4
  | finish => 5

def name : Action → String
  | addSymbol => "ADD_PREPROCESSOR_SYMBOL"
  | addSource => "ADD_SOURCE_FILE"
  | addReference => "ADD_REFERENCE"
  | enableShim => "ENABLE_COMPATIBILITY_SHIM"
  | compile => "COMPILE"
  | finish => "FINISH"

def ofCode? (n : Int) : Option Action := all.find? fun a => a.code == n

def ofName? (s : String) : Option Action := all.find? fun a => a.name == s

/-- How many strings follow the code. -/
def arity : Action → Nat
  | addSymbol | addSource | addReference => 1
  | enableShim | compile | finish => 0

theorem ofCode?_code (a : Action) : ofCode? a.code = some a := by cases a <;> decide

theorem ofName?_name (a : Action) : ofName? a.name = some a := by cases a <;> decide

end Action

/-- A value given as part of a payload: a string, or something else of which only
the kind matters. -/
inductive Argument where
  | text (value : String)
  | foreign (kind : String)
deriving DecidableEq, Repr

namespace Argument

def textKind : String := "str"

def kind : Argument → String
  | text _ => textKind
  | foreign kind => kind

/-- The string that an argument is. -/
def text? : Argument → Option String
  | text value => some value
  | foreign _ => none

end Argument

/-- An action with the strings sent along. -/
structure Frame where
  action : Action
  payload : List String
deriving DecidableEq, Repr

/-- Whether the action takes as many strings as the frame has. -/
def Frame.WellShaped (f : Frame) : Prop := f.payload.length = f.action.arity

instance (f : Frame) : Decidable f.WellShaped := inferInstanceAs (Decidable (_ = _))

/-- The strings of a payload, if it is one that the action takes. -/
def Action.payload? (a : Action) (arguments : List Argument) : Option (List String) :=
  if arguments.length = a.arity then arguments.mapM Argument.text? else none

namespace Writer

/-- Writes a frame; a payload of the wrong shape is refused before anything is
written. -/
def action (a : Action) (arguments : List Argument) : Writer Unit :=
  match a.payload? arguments with
  | none =>
    throw (.wrongPayload a.name (List.replicate a.arity Argument.textKind)
      (arguments.map Argument.kind))
  | some payload => do
    int32 a.code
    payload.forM string

end Writer

namespace Reader

/-- Reads the code of the next frame. -/
def action : Reader Action := do
  let code ← int32
  match Action.ofCode? code with
  | some a => return a
  | none => throw (.unknownAction code)

/-- Reads `count` strings. -/
def strings : Nat → Reader (List String)
  | 0 => return []
  | count + 1 => do
    let s ← string
    return s :: (← strings count)

def frame : Reader Frame := do
  let a ← action
  return ⟨a, ← strings a.arity⟩

end Reader

end PluginBuild.Wire
