/-
# Library.Load -- a library becomes live modules

Loading puts the references of a library on the search path, registers its package
and all its modules, and only then runs the bodies in order, so modules can import
one another however they are ordered.  A module stands under its own name on the
package and under the name of the library and its own in the interpreter; of two
modules of one name the last counts, and every body runs in it.
-/
import PluginBuild.Library.Compiler
import PluginBuild.Library.Import

namespace PluginBuild

set_option autoImplicit false

open LiveModule

structure LoadedLibrary where
  name : String
  /-- its modules and their files -/
  modules : List (String × String)
  references : List String
deriving DecidableEq, Repr

/-- Why a library could not be loaded. -/
inductive LoadError where
  /-- the payload is no payload at all -/
  | unreadable
  /-- the payload holds something else -/
  | foreign (kind : String)
  /-- the library was compiled for another interpreter -/
  | wrongTag (library : LibraryName) (tag : Option String)
  /-- a package needs a name -/
  | noName
  /-- a module is called like the class of its package -/
  | calledClass
  /-- a module is called like the collection of all names of its package -/
  | calledDictionary
  | notImported (cause : ImportError)
  /-- a body failed -/
  | failed (text : String)
deriving DecidableEq, Repr

def LoadError.message : LoadError → String
  | .unreadable => "Library payload could not be read"
  | .foreign kind => "Library payload has unexpected type: <class '" ++ kind ++ "'>"
  | .wrongTag library tag =>
    "Library '" ++ library.shown ++ "' was compiled for " ++ tag.getD "None"
      ++ ", this interpreter is " ++ Compiler.interpreterTag
  | .noName => "module() argument 'name' must be str, not list"
  | .calledClass => "__class__ must be set to a class, not 'module' object"
  | .calledDictionary => "readonly attribute"
  | .notImported cause => cause.message
  | .failed text => text

namespace Load

def logger : String := "scriptloader.host.loader"

abbrev Step (α : Type) := Act Interpreter LoadError α

/-- The name of a module of a library in the interpreter. -/
def qualified (library name : String) : String := library ++ "." ++ name

/-- The search path with a reference, which is added at the end unless it is there. -/
def withReference (path : List String) (reference : String) : List String :=
  if path.contains reference then path else path ++ [reference]

/-- An interpreter with references on its search path. -/
def withReferences (references : List String) (i : Interpreter) : Interpreter :=
  { i with searchPath := references.foldl withReference i.searchPath }

/-! ## Registering -/

/-- Why a name cannot be put on a package. -/
def unholdable? (name : String) : Option LoadError :=
  if name = Special.class_ then some .calledClass
  else if name = Special.dictionary then some .calledDictionary
  else none

/-- Registers a module of a library and puts it on its package. -/
def registerModule (library : String) (m : Module) : Step Unit := do
  let key := qualified library m.name
  Act.modify fun i => i.register key (.ofModule key library m.path)
  match unholdable? m.name with
  | some e => Act.fail e
  | none => Act.modify fun i => i.bind library m.name (.live key)

/-- Registers a package and the modules of its library. -/
def register (library : String) (modules : List Module) : Step Unit := do
  Act.modify fun i => i.register library (.ofPackage library)
  modules.forM (registerModule library)

/-- The registered modules of a library, in order. -/
def registered (i : Interpreter) (library : String) : List String :=
  (i.modules.map Prod.fst).filter fun name => (library ++ ".").isPrefixOf name

/-- Whether a package has a name. -/
def offers (i : Interpreter) (library name : String) : Bool :=
  match ((i.module? library).getD []).attribute? name with
  | .ok (some _) => true
  | _ => false

/-! ## Running -/

/-- Imports a name into a module. -/
def importName (key name : String) : Step Unit := fun i =>
  match i.withImport key name with
  | .ok i => ⟨.ok (), i, []⟩
  | .error e => ⟨.error (.notImported e), i, []⟩

/-- Begins a body: its module gets the names that every body finds, and the body is put
on record. -/
def beginBody (library key : String) (i : Interpreter) : Interpreter :=
  let m := (i.module? key).getD []
  let i := if (m.lookup Special.builtins).isSome then i else i.bind key Special.builtins .other
  { i with trace := i.trace ++
      [⟨m.held Special.fullName, m.held Special.file, m.held Special.package, registered i library⟩] }

/-- Runs a body in the module of its name. -/
def runBody (library : String) (m : Module) : Step Unit := do
  let key := qualified library m.name
  Act.modify (beginBody library key)
  m.body.imports.forM (importName key)
  match m.body.failure with
  | none => return ()
  | some text => Act.fail (.failed text)

/-! ## Loading -/

/-- The modules of a library by name, with their files. -/
def byName (modules : List Module) : List (String × String) :=
  modules.foldl (fun named m => Keyed.put m.name m.path named) []

/-- Loads a library that was compiled for this interpreter. -/
def loadImage (image : Image) : Step LoadedLibrary := do
  Act.modify (withReferences image.references)
  match image.name with
  | none => Act.fail .noName
  | some library => do
    register library image.modules
    image.modules.forM (runBody library)
    let modules := byName image.modules
    Act.log .info logger
      ("Loaded library " ++ library ++ " with " ++ toString modules.length ++ " modules")
    return ⟨library, modules, image.references⟩

/-- Loads the library in a payload that is read by `decode?`. -/
def loadIn (decode? : List UInt8 → Option Payload) (payload : List UInt8) :
    Step LoadedLibrary := do
  match decode? payload with
  | none => Act.fail .unreadable
  | some (.foreign kind) => Act.fail (.foreign kind)
  | some (.library image) =>
    if image.tag ≠ some Compiler.interpreterTag then Act.fail (.wrongTag image.name image.tag)
    else loadImage image

def load (payload : List UInt8) : Step LoadedLibrary := loadIn Payload.decode? payload

end Load

end PluginBuild
