/-
# Library.Compiler -- from sources to a library

A compiler parses one source at a time and emits a library from all of them; a
session knows no more of it than that (`Compiler`).  `Compiler.scripts` compiles
scripts: a source is read, its directives are applied, and the language parses what
is left; emitting compiles every parsed unit whose module name is new and checks
every reference.  Whatever is wrong becomes a diagnostic, and there is a library
only if none of them is an error.
-/
import PluginBuild.Act
import PluginBuild.Directive.Preprocess
import PluginBuild.File.Archive
import PluginBuild.Library.Image
import PluginBuild.Source.Read

namespace PluginBuild

set_option autoImplicit false

/-- Why a compiler gave no answer. -/
inductive CompilerError where
  /-- the language raised an exception that is not reported as a diagnostic -/
  | raised (cause : Raised)
  /-- no path can be written so -/
  | nulInPath
  /-- it cannot be told what a path is -/
  | file (cause : File.Error)
  /-- an archive goes on on another disk -/
  | spanningArchive
deriving DecidableEq, Repr

def CompilerError.message : CompilerError → String
  | raised cause => cause.message
  | nulInPath => "embedded null byte"
  | file cause => cause.message
  | spanningArchive => "zipfiles that span multiple disks are not supported"

structure Emission where
  success : Bool
  image : Option (List UInt8)
  diagnostics : List Diagnostic
deriving DecidableEq, Repr

/-- What a session needs of a compiler.  What comes of a source depends on its path and the options
alone, so a source that changes between two requests is another compiler's. -/
structure Compiler where
  parse : String → ParseOptions → Act Unit CompilerError SourceUnit
  emit : LibraryName → List SourceUnit → List String → Act Unit CompilerError Emission

namespace Compiler

/-! ## Diagnostics -/

namespace Code

def sourceUnreadable : String := "SL0001"
def directive : String := "SL0002"
def syntaxError : String := "SL0003"
def compilation : String := "SL0004"
def referenceAbsent : String := "SL0006"
def referenceInvalid : String := "SL0009"
def duplicateModule : String := "SL0101"
def languageWarning : String := "SL1701"

end Code

/-- The diagnostic for an exception of the language, if it is one to be reported. -/
def ofRaised? (r : Raised) (path code : String) : Option Diagnostic :=
  if r.isSyntax then
    some (.error code r.text
      ⟨path, r.line.getD 0, r.column.getD 0, r.endLine.getD 0, r.endColumn.getD 0⟩)
  else if r.isContained then
    some (.error code (some (r.kind ++ ": " ++ r.message)) (.ofFile path))
  else none

/-- The diagnostic for a warning of the language. -/
def ofWarning (path : String) (w : Warning) : Diagnostic :=
  ⟨Diagnostic.warningSeverity, Code.languageWarning, some w.message,
    some { Location.ofFile path with line := w.line.getD 0 }⟩

/-- The answer of the language, or the diagnostic that stands for it, followed by
the diagnostics for its warnings. -/
def report {α : Type} (reaction : Reaction α) (path code : String) :
    Except CompilerError (Option α × List Diagnostic) :=
  let warnings := reaction.warnings.map (ofWarning path)
  match reaction.result with
  | .ok a => .ok (some a, warnings)
  | .error r =>
    match ofRaised? r path code with
    | some d => .ok (none, d :: warnings)
    | none => .error (.raised r)

/-! ## Parsing -/

/-- Parses the source at a path. -/
def parseSource (files : FileSystem) (front : FrontEnd) (path : String) (options : ParseOptions) :
    Act Unit CompilerError SourceUnit := do
  let place := Path.ofString path
  let unit (tree : Option Tree) (diagnostics : List Diagnostic) : SourceUnit :=
    ⟨path, place.stem, options, tree, diagnostics⟩
  if FileSystem.hasNul place then Act.fail .nulInPath
  else
    match Source.read files place with
    | .error e =>
      return unit none [.error Code.sourceUnreadable
        (some ("Source file could not be read: " ++ e.message)) (.ofFile path)]
    | .ok text =>
      match Directive.preprocess text options.symbols with
      | .error e =>
        return unit none [.error Code.directive (some e.message)
          { Location.ofFile path with line := e.line }]
      | .ok text => do
        Act.leave (.treeAsked path text options.languageVersion)
        let (tree, diagnostics) ← Act.ofExcept
          (report (front.parse path text options.languageVersion) path Code.syntaxError)
        return unit tree diagnostics

/-! ## Emitting -/

/-- The diagnostics and the modules of some units, where `taken` maps the module names
in use to the paths that took them. -/
def emitUnits (front : FrontEnd) (optimize : Int) (taken : List (String × String)) :
    List SourceUnit → Act Unit CompilerError (List Diagnostic × List Module)
  | [] => return ([], [])
  | u :: rest => do
    match u.tree with
    | none =>
      let (ds, ms) ← emitUnits front optimize taken rest
      return (u.diagnostics ++ ds, ms)
    | some tree =>
      match taken.lookup u.moduleName with
      | some holder =>
        let d := Diagnostic.error Code.duplicateModule
          (some ("Module '" ++ u.moduleName ++ "' is already defined by '" ++ holder ++ "'"))
          (.ofFile u.path)
        let (ds, ms) ← emitUnits front optimize taken rest
        return (u.diagnostics ++ d :: ds, ms)
      | none =>
        Act.leave (.bodyAsked u.path optimize)
        let (body, own) ← Act.ofExcept
          (report (front.compile tree u.path optimize) u.path Code.compilation)
        let (ds, ms) ← emitUnits front optimize (taken ++ [(u.moduleName, u.path)]) rest
        return (u.diagnostics ++ own ++ ds,
          (body.map fun b => Module.mk u.moduleName u.path b).toList ++ ms)

/-- The diagnostic for a reference, if there is something wrong with it. -/
def checkReference (files : FileSystem) (reference : String) :
    Except CompilerError (Option Diagnostic) := do
  let path := Path.ofString reference
  let named := "Metadata file '" ++ reference ++ "'"
  let isFile ← (files.isFile path).mapError .file
  if !isFile then
    return some (.error Code.referenceAbsent (some (named ++ " could not be found"))
      (.ofFile reference))
  let verdict := match files.read path with
    | .ok bytes => Archive.check bytes
    | .error _ => .other
  match verdict with
  | .archive => return none
  | .spanning => throw .spanningArchive
  | .other =>
    return some (.error Code.referenceInvalid (some (named ++ " is not a module archive"))
      (.ofFile reference))

/-- The tag of the interpreter that compiles. -/
def interpreterTag : String := "cpython-311"

/-- Emits a library from units and references, with its payload written by `encode`. -/
def emitLibrary (encode : Payload → List UInt8) (files : FileSystem) (front : FrontEnd)
    (optimize : Int) (name : LibraryName) (units : List SourceUnit) (references : List String) :
    Act Unit CompilerError Emission := do
  let (ofUnits, modules) ← emitUnits front optimize [] units
  let ofReferences ← Act.ofExcept (references.mapM (checkReference files))
  let diagnostics := ofUnits ++ ofReferences.filterMap id
  if (Diagnostic.errors diagnostics).isEmpty then
    let image : Image := ⟨name, modules, references, some interpreterTag⟩
    return ⟨true, some (encode (.library image)), diagnostics⟩
  else return ⟨false, none, diagnostics⟩

/-- The compiler of scripts that writes payloads by `encode`.  Files are what they were when it was
made: parsing a path twice reads the same source. -/
def scriptsIn (encode : Payload → List UInt8) (files : FileSystem) (front : FrontEnd)
    (optimize : Int) : Compiler where
  parse := parseSource files front
  emit := emitLibrary encode files front optimize

def scripts (files : FileSystem) (front : FrontEnd) (optimize : Int) : Compiler :=
  scriptsIn Payload.encode files front optimize

end Compiler

end PluginBuild
