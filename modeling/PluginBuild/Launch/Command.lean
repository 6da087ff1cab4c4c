/-
# Launch.Command -- how the helper is started

On Windows the helper is a program of its own; elsewhere it is a script that an
interpreter runs, and its arguments go through one command line.  Where a platform
is not known, there is neither.
-/
import PluginBuild.Act
import PluginBuild.Host.Layout
import PluginBuild.Host.Platform
import PluginBuild.Host.Settings
import PluginBuild.Launch.CommandLine

namespace PluginBuild

set_option autoImplicit false

inductive LaunchMode where
  | direct
  /-- through an interpreter -/
  | interpreter
deriving DecidableEq, Repr

namespace LaunchMode

def name : LaunchMode → String
  | direct => "direct"
  | interpreter => "interpreter"

/-- How the helper is started on a platform. -/
def ofPlatform? : Platform → Option LaunchMode
  | .windows => some direct
  | .linux => some interpreter
  | .osx => some interpreter
  | .unknown => none

end LaunchMode

/-- Why an operating system did not start a program. -/
structure SpawnError where
  number : Int
  text : String
  /-- the file that it names -/
  file : Option String
deriving DecidableEq, Repr

/-- The message of a failed start. -/
def SpawnError.message (e : SpawnError) : String :=
  "[Errno " ++ toString e.number ++ "] " ++ e.text ++ match e.file with
    | none => ""
    | some file => ": " ++ Text.quoted file

/-- Why there is no running helper. -/
inductive LaunchError where
  /-- no way to start a helper on this platform -/
  | noLaunch (platform : Platform)
  /-- no helper for this platform -/
  | noHelper (platform : Platform)
  /-- no file where the helper should be -/
  | helperAbsent (path : Path)
  | notStarted (cause : SpawnError)
  /-- the child had ended before it was looked at -/
  | endedAtOnce
  /-- the child neither signalled nor ended in time -/
  | notReady (timeout : Number.Binary64)
  /-- the child ended without a signal -/
  | endedEarly (code : Int)
  /-- no launcher to be installed -/
  | launcherAbsent
deriving DecidableEq

/-- The program that Windows starts as the helper. -/
def launcherName : String := "scriptloader-compiler"

def LaunchError.message : LaunchError → String
  | .noLaunch platform => "No way to launch the compiler helper on " ++ platform.name
  | .noHelper platform => "No compiler helper is defined for " ++ platform.name
  | .helperAbsent path => "Compiler helper not found: " ++ path.text
  | .notStarted cause => "Failed to start compiler helper: " ++ cause.message
  | .endedAtOnce => "Compiler helper exited immediately"
  | .notReady timeout =>
    "Compiler helper did not become ready within " ++ secondsText timeout ++ "s"
  | .endedEarly code =>
    "Compiler helper exited before becoming ready (exit code " ++ toString code ++ ")"
  | .launcherAbsent =>
    "'" ++ launcherName ++ "' is not on PATH; install scriptloader to deploy the helper"

namespace Launch

/-- The logger of everything about the helper process. -/
def logger : String := "scriptloader.host.supervisor"

def mode (platform : Platform) : Except LaunchError LaunchMode :=
  match LaunchMode.ofPlatform? platform with
  | some mode => .ok mode
  | none => .error (.noLaunch platform)

/-- Why no command could be built. -/
inductive CommandError where
  | launch (cause : LaunchError)
  | line (cause : CommandLine.Fault)
deriving DecidableEq

def CommandError.message : CommandError → String
  | .launch cause => cause.message
  | .line cause => cause.message

/-- The arguments that start a helper, the program first. -/
def command (interpreter : String) (helper : Path) (platform : Platform) (arguments : List String) :
    Act Unit CommandError (List String) := do
  match ← Act.ofExcept ((mode platform).mapError .launch) with
  | .direct => return helper.text :: arguments
  | .interpreter =>
    let line := CommandLine.ofArguments (helper.text :: arguments)
    Act.log .debug logger ("Helper command line: " ++ interpreter ++ " " ++ line)
    let split ← Act.ofExcept ((CommandLine.split line).mapError .line)
    return interpreter :: split

/-- The directory of the helper among the tools. -/
def helperDirectory : String := "ScriptCompiler"

/-- The name of the helper on a platform. -/
def helperName? : Platform → Option String
  | .windows => some "scriptc.exe"
  | .linux => some "scriptc.py"
  | .osx => some "scriptc.py"
  | .unknown => none

/-- Where the helper of a platform is: where the environment says, or among the tools
of the installation. -/
def helperPath (settings : Settings) (install : Install) (platform : Platform) :
    Except LaunchError Path :=
  match settings.helper? with
  | some path => .ok path
  | none =>
    match helperName? platform with
    | some name => .ok ((install.tools.entry helperDirectory).entry name)
    | none => .error (.noHelper platform)

end Launch

end PluginBuild
