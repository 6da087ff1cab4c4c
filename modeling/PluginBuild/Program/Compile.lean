/-
# Program.Compile -- the program that compiles an application's scripts

The program reads its options, puts the helper in place if it is asked to, builds,
and shows what came of it: the library on its output, diagnostics and log records
apart from it.  Its exit code is zero exactly when there is a library or help was
asked for.
-/
import PluginBuild.Build
import PluginBuild.Launch.Deploy
import PluginBuild.Program.Options

namespace PluginBuild.Compile

set_option autoImplicit false

open PluginBuild.Options PluginBuild.Wire

def manual : Manual where
  program := "scriptloader"
  usage :=
    "usage: scriptloader [-h] --data-path DATA_PATH --version VERSION [--root ROOT]\n"
      ++ "                    [--helper HELPER] [--platform \x7bwindows,linux,osx,unknown\x7d]\n"
      ++ "                    [--debug-build] [--micro-runtime] [--deploy-helper]\n"
      ++ "                    [--load] [-v]\n"
  description :=
    "Compile script plugins\n\n"
      ++ "options:\n"
      ++ "  -h, --help            show this help message and exit\n"
      ++ "  --data-path DATA_PATH\n"
      ++ "                        Application data directory\n"
      ++ "  --version VERSION     Host version, e.g. 2019.4.1f1\n"
      ++ "  --root ROOT           Installation root\n"
      ++ "  --helper HELPER       Compiler helper to run\n"
      ++ "  --platform \x7bwindows,linux,osx,unknown\x7d\n"
      ++ "                        Host platform (default: the running one)\n"
      ++ "  --debug-build         Define DEVELOPMENT_BUILD\n"
      ++ "  --micro-runtime       Behave as a host with the minimal core runtime\n"
      ++ "  --deploy-helper       Install the helper into the installation's Tools/\n"
      ++ "                        first\n"
      ++ "  --load                Load the compiled library\n"
      ++ "  -v, --verbose\n"
  specs := [
    Manual.helpSpec,
    ⟨["--data-path"], .value .text, true⟩,
    ⟨["--version"], .value .text, true⟩,
    ⟨["--root"], .value .text, false⟩,
    ⟨["--helper"], .value .text, false⟩,
    ⟨["--platform"], .value (.choice (Platform.all.map Platform.name)), false⟩,
    ⟨["--debug-build"], .flag, false⟩,
    ⟨["--micro-runtime"], .flag, false⟩,
    ⟨["--deploy-helper"], .flag, false⟩,
    ⟨["--load"], .flag, false⟩,
    ⟨["-v", "--verbose"], .flag, false⟩]

inductive HelperChoice where
  /-- the one of the installation -/
  | installed
  | named (path : Path)
  /-- another one, which was not named -/
  | unnamed
deriving DecidableEq, Repr

/-- What was asked of the program.  The application and the version must be asked for, but
may be left empty. -/
structure Order where
  data : Option Path
  version : Option String
  root : Option Path
  helper : HelperChoice
  platform : Option Platform
  debugBuild : Bool
  microRuntime : Bool
  deployHelper : Bool
  load : Bool
  verbose : Bool
deriving DecidableEq, Repr

def Order.ofRequest (r : Request) : Order where
  data := (r.value? "--data-path").map .ofString
  version := r.value? "--version"
  root := (r.value? "--root").map .ofString
  helper := match r.values? "--helper" with
    | none => .installed
    | some [] => .unnamed
    | some (text :: _) => .named (.ofString text)
  platform := (r.value? "--platform").bind Platform.ofName?
  debugBuild := r.has "--debug-build"
  microRuntime := r.has "--micro-runtime"
  deployHelper := r.has "--deploy-helper"
  load := r.has "--load"
  verbose := r.has "--verbose"

inductive Error where
  /-- no level of log records is called so -/
  | badLevel (cause : Log.UnknownLevel)
  | noVersion
  | noData
  | noHelper
  | settings (cause : SettingsError)
  | deploy (cause : Deploy.Error)
  | build (cause : BuildError)
deriving DecidableEq

def Error.message : Error → String
  | .badLevel cause => cause.message
  | .noVersion => "expected string or bytes-like object, got 'list'"
  | .noData => "unsupported operand type(s) for /: 'list' and 'str'"
  | .noHelper => "expected str, bytes or os.PathLike object, not list"
  | .settings cause => cause.message
  | .deploy cause => cause.message
  | .build cause => cause.message

/-- What the program is run in. -/
structure Setting where
  workshop : Workshop
  /-- the files of the helper that are deployed -/
  own : Deploy.HelperFiles

structure Shown where
  output : String
  /-- what is shown apart from the output -/
  errors : String
deriving DecidableEq, Repr

/-- What the program works on: what it has shown, which log records it shows, and
what a build changes. -/
structure State where
  shown : Shown
  log : Log.State
  site : Build.Site Interpreter

namespace State

def fresh : State := ⟨⟨"", ""⟩, .fresh, ⟨[], .fresh⟩⟩

/-- Shows a text on the output. -/
def print (s : State) (text : String) : State :=
  { s with shown := { s.shown with output := s.shown.output ++ text } }

/-- Shows a text apart from the output. -/
def printError (s : State) (text : String) : State :=
  { s with shown := { s.shown with errors := s.shown.errors ++ text } }

/-- Shows log records, as far as they are to be shown. -/
def showRecords (s : State) (records : List Log.Record) : State :=
  s.printError (String.join ((records.filter fun r => s.log.passes r.level).map Log.Record.line))

end State

abbrev Step (α : Type) := Act State Error α

/-- Does a part of a build, and shows its log records. -/
def building {α : Type} (x : Act (Build.Site Interpreter) BuildError α) : Step α := fun s =>
  let o := x s.site
  ⟨o.result.mapError .build,
    { s with site := o.state }.showRecords (o.events.filterMap Event.record?), o.events⟩

/-- The stream of log records, of which the program has but one. -/
def logStream : Nat := 0

/-- Sets which log records are shown. -/
def configureLog (settings : Settings) (verbose : Bool) : Step Unit := fun s =>
  let threshold : Log.Threshold := .named (if verbose then Log.Level.debug.name else settings.logLevel)
  let (result, log) := s.log.configure logStream threshold
  ⟨result.mapError .badLevel, { s with log }, []⟩

/-- Shows the library that was loaded. -/
def loadedText (library : LoadedLibrary) : String :=
  let names := ", ".intercalate (library.modules.map Prod.fst)
  "Loaded " ++ library.name ++ ": " ++ (if names = "" then "(no modules)" else names) ++ "\n"

/-- Shows the size of a library. -/
def compiledText (payload : List UInt8) : String :=
  "Compiled " ++ toString payload.length ++ " bytes\n"

/-- Builds and loads; the answer is the exit code. -/
def loadLibrary (b : Build) (w : Workshop) : Step Int := do
  match ← building (b.run w Load.load) with
  | none => return 1
  | some library => do
    Act.modify fun s => s.print (loadedText library)
    return 0

/-- Builds only; the answer is the exit code. -/
def compileLibrary (b : Build) (w : Workshop) : Step Int := do
  let compiled := (b.compile w).on Build.Site.attempts fun attempts s => { s with attempts }
  match ← building compiled with
  | none => return 1
  | some result =>
    if result.success then do
      Act.modify fun s => s.print (compiledText result.payload)
      return 0
    else do
      Act.modify fun s => s.printError (String.join (result.diagnostics.map (· ++ "\n")))
      return 1

/-- The host that an order describes. -/
def Order.host (o : Order) (version : String) (platform : Platform) : Host :=
  ⟨version, platform, o.debugBuild, if o.microRuntime then some Host.microToken else none⟩

/-- Builds in the way an order asks for. -/
def Order.build (o : Order) (b : Build) (w : Workshop) : Step Int :=
  if o.load then loadLibrary b w else compileLibrary b w

/-- Breaks off, but after what is done first has not given up. -/
def breakOff {α : Type} (x : Act (Build.Site Interpreter) BuildError (Option α)) (e : Error) :
    Step Int := do
  match ← building x with
  | none => return 1
  | some _ => Act.fail e

/-- Builds what an order asks for.  What was left empty shows when it is used: the version
first, then the application, and the helper once everything is planned. -/
def Order.perform (o : Order) (install : Install) (platform : Platform) (w : Workshop) : Step Int :=
  match o.version with
  | none => Act.fail .noVersion
  | some version =>
    let host := o.host version platform
    match o.data with
    | none =>
      breakOff (match host.symbols with
        | .error cause => Build.giveUpPreparing cause
        | .ok symbols => return some symbols) .noData
    | some data =>
      let b (helper : Option Path) : Build := ⟨host, install, ⟨data⟩, helper, none⟩
      match o.helper with
      | .installed => o.build (b none) w
      | .named path => o.build (b (some path)) w
      | .unnamed => breakOff ((b none).prepare w.files) .noHelper

/-- The installation that an order names. -/
def Order.install (o : Order) (settings : Settings) : Except Error Install :=
  match o.root with
  | some root => .ok ⟨root⟩
  | none => (settings.installRoot.map Install.mk).mapError .settings

/-- Carries out an order; the answer is the exit code. -/
def carryOut (s : Setting) (o : Order) : Step Int := do
  let w := s.workshop
  configureLog w.settings o.verbose
  let install ← Act.ofExcept (o.install w.settings)
  let platform := o.platform.getD (Platform.ofSystem w.settings.system)
  if !o.deployHelper then o.perform install platform w
  else
    match Deploy.deploy w.files w.settings s.own install platform with
    | .ok (_, files) => o.perform install platform { w with files }
    | .error (.launch cause) => do
      Act.modify fun st => st.printError ("Unable to deploy the script compiler: " ++ cause.message ++ "\n")
      return 1
    | .error cause => Act.fail (.deploy cause)

/-- Runs the program; the answer is the exit code. -/
def run (s : Setting) (arguments : List String) : Step Int := do
  match Options.parse manual.specs arguments with
  | .error .help => do
    Act.modify fun st => st.print manual.help
    return 0
  | .error (.fault fault) => do
    Act.modify fun st => st.printError (manual.refusal fault)
    return 2
  | .ok request => carryOut s (.ofRequest request)

end PluginBuild.Compile
