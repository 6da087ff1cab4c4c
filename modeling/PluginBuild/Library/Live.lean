/-
# Library.Live -- live modules and what their names stand for

A live module is known by the names it holds and what they stand for.  Besides its
own names it has those that the language gives every module; two of these it can
never hold itself.  An interpreter registers live modules under their full names.
-/
import PluginBuild.Keyed
import PluginBuild.Text.Quoted

namespace PluginBuild

set_option autoImplicit false

inductive Value where
  | text (s : String)
  | nothing
  /-- a list without items -/
  | emptyList
  /-- the live module that is registered under a name -/
  | live (key : String)
  /-- something that importing never looks into -/
  | other
deriving DecidableEq, Repr

def Value.kind : Value → String
  | text _ => "str"
  | nothing => "NoneType"
  | emptyList => "list"
  | live _ => "module"
  | other => "object"

/-- Whether a value can be gone through item by item. -/
def Value.isIterable : Value → Bool
  | text _ => true
  | emptyList => true
  | _ => false

/-- The names that a live module holds, in order, and what they stand for. -/
abbrev LiveModule := List (String × Value)

/-- A body that was run: what its module's names stood for when it began. -/
structure Execution where
  moduleName : Value
  file : Value
  package : Value
  /-- the modules of the library that were registered at that time -/
  registered : List String
deriving DecidableEq, Repr

structure Interpreter where
  searchPath : List String
  /-- the registered modules, in order -/
  modules : List (String × LiveModule)
  trace : List Execution
deriving DecidableEq, Repr

namespace LiveModule

/-! ## Names with a meaning for the language -/

namespace Special

/-- The full name of a module. -/
def fullName : String := "__name__"

/-- The package that a module belongs to. -/
def package : String := "__package__"

/-- Where the modules of a package are looked for; what has it is a package. -/
def path : String := "__path__"

/-- The file that a module comes from. -/
def file : String := "__file__"

def spec : String := "__spec__"

/-- What is asked for names that a module does not have. -/
def finder : String := "__getattr__"

/-- The names that `*` stands for. -/
def exported : String := "__all__"

/-- The names that a body finds besides its module's. -/
def builtins : String := "__builtins__"

def class_ : String := "__class__"

def dictionary : String := "__dict__"

/-- The names that no module can hold itself. -/
def unholdable : List String := [class_, dictionary]

/-- The names that every module has, unless it holds them itself. -/
def common : List String :=
  ["__annotations__", "__delattr__", "__dir__", "__doc__", "__eq__", "__format__", "__ge__",
    "__getattribute__", "__getstate__", "__gt__", "__hash__", "__init__", "__init_subclass__",
    "__le__", "__lt__", "__ne__", "__new__", "__reduce__", "__reduce_ex__", "__repr__",
    "__setattr__", "__sizeof__", "__str__", "__subclasshook__"]

end Special

/-- A live module with a name and nothing else. -/
def named (name : String) : LiveModule :=
  [(Special.fullName, .text name), ("__doc__", .nothing), (Special.package, .nothing),
    ("__loader__", .nothing), (Special.spec, .nothing)]

/-- A package that is found nowhere but in the interpreter. -/
def ofPackage (name : String) : LiveModule := Keyed.put Special.path .emptyList (named name)

def ofModule (name package file : String) : LiveModule :=
  Keyed.put Special.package (.text package) (Keyed.put Special.file (.text file) (named name))

/-- What a name stands for that a module holds; else nothing. -/
def held (m : LiveModule) (name : String) : Value := (m.lookup name).getD .nothing

end LiveModule

namespace Interpreter

/-- An interpreter in which nothing was loaded. -/
def fresh : Interpreter := ⟨[], [], []⟩

/-- The module that is registered under a name. -/
def module? (i : Interpreter) (key : String) : Option LiveModule := i.modules.lookup key

def register (i : Interpreter) (key : String) (m : LiveModule) : Interpreter :=
  { i with modules := Keyed.put key m i.modules }

/-- Has a registered module hold a name. -/
def bind (i : Interpreter) (key name : String) (value : Value) : Interpreter :=
  i.register key (Keyed.put name value ((i.module? key).getD []))

/-- How a module is written that stands where a text is asked for. -/
def describe (i : Interpreter) (key : String) : String :=
  let shown : Value → String
    | .text s => Text.quoted s
    | .emptyList => "[]"
    | _ => "None"
  match i.module? key with
  | none => "<module " ++ Text.quoted key ++ ">"
  | some m =>
    let origin := match m.lookup LiveModule.Special.file with
      | some file => " from " ++ shown file
      | none => ""
    "<module " ++ shown (m.held LiveModule.Special.fullName) ++ origin ++ ">"

def textOf (i : Interpreter) : Value → String
  | .text s => s
  | .nothing => "None"
  | .emptyList => "[]"
  | .live key => i.describe key
  | .other => "<object>"

end Interpreter

end PluginBuild
