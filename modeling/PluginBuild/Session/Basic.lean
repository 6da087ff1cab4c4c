/-
# Session.Basic -- a compilation that is built up step by step

A session collects symbols, sources and references and compiles them once.  A
source is parsed when it is added, with the symbols that are there then; a symbol
added later does not reach it.  The request to compile is spent even if compiling
fails.
-/
import PluginBuild.Library.Compiler
import PluginBuild.Wire.Result

namespace PluginBuild

set_option autoImplicit false

open PluginBuild.Wire (CompileResult)

structure Session where
  name : LibraryName
  /-- the archive that stands in for a full runtime -/
  shim : Option Path
  symbols : SymbolSet
  /-- the options of the next source -/
  options : ParseOptions
  units : List SourceUnit
  references : List String
  /-- whether compiling has been requested -/
  compiled : Bool
deriving DecidableEq

inductive SessionError where
  | alreadyCompiled (name : LibraryName)
  | noShim
  /-- a diagnostic without a message cannot be shown -/
  | noMessage
  | compiler (cause : CompilerError)
deriving DecidableEq, Repr

namespace SessionError

def message : SessionError → String
  | alreadyCompiled name => "Session '" ++ name.shown ++ "' has already been compiled"
  | noShim => "No compatibility shim is configured for this session"
  | noMessage => "'NoneType' object has no attribute 'splitlines'"
  | compiler cause => cause.message

/-- Whether the script language raised the end of a stream. -/
def isEndOfInput : SessionError → Bool
  | compiler (.raised cause) => cause.isEndOfInput
  | _ => false

end SessionError

namespace Session

/-- The name of a library that is not named otherwise. -/
def defaultName : String := "ScriptLibrary"

def logger : String := "scriptloader.compiler.session"

/-- A session in which nothing has been done. -/
def fresh (name : LibraryName) (shim : Option Path) (version : Option LanguageVersion) : Session where
  name := name
  shim := shim
  symbols := ∅
  options := ⟨version, ∅⟩
  units := []
  references := []
  compiled := false

/-- Defines a symbol for the sources that follow. -/
def addSymbol (symbol : String) : Act Session SessionError Unit :=
  Act.modify fun s =>
    let symbols := s.symbols.insert symbol
    { s with symbols, options := { s.options with symbols } }

/-- Parses a source and adds it. -/
def addSource (c : Compiler) (path : String) : Act Session SessionError SourceUnit := do
  let s ← Act.get
  Act.leave (.parsing path s.options)
  let unit ← ((c.parse path s.options).mapError SessionError.compiler).free
  Act.modify fun s => { s with units := s.units ++ [unit] }
  Act.log .debug logger
    ("Parsed " ++ path ++ " with symbols " ++ Text.quotedList unit.symbols.toList ++ " ("
      ++ toString unit.diagnostics.length ++ " diagnostics)")
  return unit

/-- Adds a reference, unless it is there already. -/
def addReference (path : String) : Act Session SessionError Unit :=
  Act.modify fun s =>
    if s.references.contains path then s else { s with references := s.references ++ [path] }

/-- Refers to the archive that stands in for a full runtime. -/
def enableShim : Act Session SessionError Unit := do
  match (← Act.get).shim with
  | none => Act.fail .noShim
  | some path => addReference path.text

/-- The result that an emission stands for. -/
def resultOf (e : Emission) : Except SessionError CompileResult :=
  if e.success then .ok (.succeeded (e.image.getD []))
  else
    match e.diagnostics.mapM Diagnostic.line? with
    | some lines => .ok (.failed lines)
    | none => .error .noMessage

def compile (c : Compiler) : Act Session SessionError CompileResult := do
  let s ← Act.get
  if s.compiled then Act.fail (.alreadyCompiled s.name)
  else do
    Act.modify fun s => { s with compiled := true }
    Act.leave (.emitting s.name s.units s.references)
    let emission ← ((c.emit s.name s.units s.references).mapError SessionError.compiler).free
    Act.log .info logger
      ("Compiled " ++ toString s.units.length ++ " units against " ++ toString s.references.length
        ++ " references: " ++ if emission.success then "success" else "failure")
    Act.ofExcept (resultOf emission)

end Session

end PluginBuild
