/-
# Library.Import -- importing a name from the package of a module

A body imports names from its own package.  Which package that is the names of its
module say; a name is looked for on the package, then among the registered modules
below it, and what it stands for is held by the importing module from then on.
Modules are found only where they are registered: no reference is ever opened.
-/
import PluginBuild.Act
import PluginBuild.Library.Live
import PluginBuild.Text.Split

namespace PluginBuild

set_option autoImplicit false

open PluginBuild.Text

/-- Why a name cannot be imported. -/
inductive ImportError where
  /-- the module belongs to no package -/
  | noPackage
  | packageNotText
  | parentNotText
  | nameNotText
  /-- a module has been put where a function is asked for names -/
  | notCallable (kind : String)
  /-- something has been put where a list is expected -/
  | notIterable (kind : String)
  /-- a module has no such name; it may itself have none that is a text -/
  | noAttribute (module : Option String) (name : String)
  /-- no such module, and its package is one -/
  | notFound (module : String)
  /-- no such module, for what stands above it is no package -/
  | notPackage (module parent : String)
  /-- the package has no such name; some packages come from a file -/
  | missingName (name package : String) (file : Option String)
deriving DecidableEq, Repr

def ImportError.message : ImportError → String
  | noPackage => "attempted relative import with no known parent package"
  | packageNotText => "package must be a string"
  | parentNotText => "__spec__.parent must be a string"
  | nameNotText => "__name__ must be a string"
  | notCallable kind => quoted kind ++ " object is not callable"
  | notIterable kind => quoted kind ++ " object is not iterable"
  | noAttribute module name =>
    (match module with
      | some module => "module '" ++ module ++ "'"
      | none => "module") ++ " has no attribute '" ++ name ++ "'"
  | notFound module => "No module named " ++ quoted module
  | notPackage module parent =>
    "No module named " ++ quoted module ++ "; " ++ quoted parent ++ " is not a package"
  | missingName name package file =>
    "cannot import name " ++ quoted name ++ " from " ++ quoted package ++ " ("
      ++ file.getD "unknown location" ++ ")"

/-- The module that an error says is absent. -/
def ImportError.absentModule? : ImportError → Option String
  | notFound module => some module
  | notPackage module _ => some module
  | _ => none

open LiveModule

/-! ## Names of a module -/

/-- What a name of a module stands for, if the module has it. -/
def LiveModule.attribute? (m : LiveModule) (name : String) : Except ImportError (Option Value) :=
  if Special.unholdable.contains name then .ok (some .other)
  else
    match m.lookup name with
    | some value => .ok (some value)
    | none =>
      if Special.common.contains name then .ok (some .other)
      else
        match m.lookup Special.finder with
        | some finder => .error (.notCallable finder.kind)
        | none => .ok none

/-- What a name of a module stands for. -/
def LiveModule.attribute (m : LiveModule) (name : String) : Except ImportError Value := do
  match ← m.attribute? name with
  | some value => return value
  | none =>
    let known := match m.held Special.fullName with
      | .text s => some s
      | _ => none
    throw (.noAttribute known name)

namespace Interpreter

/-! ## The package of a module -/

/-- What stands before the first point of a name. -/
def beforeFirst (name : List Char) : Option (List Char) :=
  if name.contains '.' then some (name.takeWhile (· ≠ '.')) else none

/-- What stands before the last point of a name. -/
def beforeLast (name : List Char) : Option (List Char) :=
  if name.contains '.' then some ((name.reverse.dropWhile (· ≠ '.')).tail).reverse else none

/-- The name of the package that a module belongs to, by what it is said to belong to, by
how it was found, or by its own name. -/
def packageName (i : Interpreter) (m : LiveModule) : Except ImportError String := do
  let name ← match m.held Special.package, m.held Special.spec with
    | .text package, .live spec => do
      let _ ← ((i.module? spec).getD []).attribute "parent"
      pure package
    | .text package, _ => pure package
    | .nothing, .live spec =>
      match ← ((i.module? spec).getD []).attribute "parent" with
      | .text parent => pure parent
      | _ => throw .parentNotText
    | .nothing, _ =>
      match m.held Special.fullName with
      | .text name =>
        if (m.lookup Special.path).isSome then pure name
        else
          match beforeLast name.toList with
          | some front => pure (String.ofList front)
          | none => throw .noPackage
      | _ => throw .nameNotText
    | _, _ => throw .packageNotText
  if name = "" then throw .noPackage
  return name

/-! ## Finding modules -/

/-- Why there is no module of a name, given as its pieces between points, the last piece
first.  It is looked for where the module above it says; that one is looked for first. -/
def absent (i : Interpreter) : List (List Char) → ImportError
  | [] => .notFound ""
  | [piece] => .notFound (String.ofList piece)
  | piece :: above =>
    let joined (pieces : List (List Char)) : String :=
      ".".intercalate (pieces.reverse.map String.ofList)
    let name := joined (piece :: above)
    let parent := joined above
    if parent = "" then .notFound name
    else
      match i.module? parent with
      | none => absent i above
      | some m =>
        match m.attribute? Special.path with
        | .error e => e
        | .ok none => .notPackage name parent
        | .ok (some .nothing) => .notFound name
        | .ok (some path) => if path.isIterable then .notFound name else .notIterable path.kind

/-- The registered module of a name. -/
def find (i : Interpreter) (name : String) : Except ImportError LiveModule :=
  match i.module? name with
  | some m => .ok m
  | none => .error (i.absent (cut (· = '.') name.toList).reverse)

/-- Looks for a module and for what stands at the front of its name. -/
def findWithFront (i : Interpreter) (name : String) : Except ImportError Unit := do
  let _ ← i.find name
  match beforeFirst name.toList with
  | none => return ()
  | some front =>
    let _ ← i.find (String.ofList front)

/-! ## Importing -/

/-- What a module of a package is called in full. -/
def below (i : Interpreter) (package : LiveModule) (name : String) : Except ImportError String :=
  return i.textOf (← package.attribute Special.fullName) ++ "." ++ name

/-- Has a package look for a module of a name that it does not have. -/
def ensure (i : Interpreter) (package : LiveModule) (name : String) : Except ImportError Unit := do
  if (← package.attribute? name).isNone then
    let full ← i.below package name
    match i.findWithFront full with
    | .ok () => return ()
    | .error e => if e.absentModule? = some full then return () else throw e

/-- Why a package does not have a name. -/
def missing (package : LiveModule) (name : String) : ImportError :=
  let known := match package.held Special.fullName with
    | .text s => s
    | _ => "<unknown module name>"
  let file := match package.held Special.file with
    | .text s => some s
    | _ => none
  .missingName name known file

/-- What a name of a package stands for: what it holds under the name, or the registered
module below it. -/
def valueFrom (i : Interpreter) (package : LiveModule) (name : String) : Except ImportError Value := do
  match ← package.attribute? name with
  | some value => return value
  | none =>
    match package.held Special.fullName with
    | .text full =>
      let key := full ++ "." ++ name
      if (i.module? key).isSome then return .live key
      else throw (missing package name)
    | _ => throw (missing package name)

/-- What importing all names of a package brings. -/
def allFrom (package : LiveModule) : Except ImportError (List (String × Value)) := do
  match ← package.attribute? Special.exported with
  | some exported => throw (.notIterable exported.kind)
  | none => return package.filter fun (name, _) => !"_".isPrefixOf name

/-- The word that stands for all names. -/
def allNames : String := "*"

/-- What importing a name into a module brings. -/
def imported (i : Interpreter) (m : LiveModule) (name : String) :
    Except ImportError (List (String × Value)) := do
  let package ← i.find (← i.packageName m)
  if name = allNames then allFrom package
  else
    if (← package.attribute? Special.path).isSome then i.ensure package name
    return [(name, ← i.valueFrom package name)]

/-- An interpreter after a module of it has imported a name. -/
def withImport (i : Interpreter) (key name : String) : Except ImportError Interpreter := do
  let values ← i.imported ((i.module? key).getD []) name
  return values.foldl (fun i (name, value) => i.bind key name value) i

end Interpreter

end PluginBuild
