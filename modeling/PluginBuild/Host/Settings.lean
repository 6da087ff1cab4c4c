/-
# Host.Settings -- what the environment decides

Variables of the environment override where the installation lies, which helper is
used, how long to wait for it and which log records are shown.  Everything else
follows from the operating system and the home directory.
-/
import PluginBuild.File.Path
import PluginBuild.Number.Real
import PluginBuild.Number.Shortest
import PluginBuild.Text.Quoted
import PluginBuild.Text.Upper

namespace PluginBuild

set_option autoImplicit false

open PluginBuild.Number PluginBuild.Text

/-- Times are written with the fewest digits, as whole numbers with one zero behind
the point, and with an exponent below 10^-4 and from 10^16 on. -/
def secondsLayout : Shortest.Layout where
  positionalAbove := -4
  positionalTo := 16
  wholeEnding := ".0"
  exponentMark := "e"
  exponentWidth := 2
  infinity := "inf"
  nan := "nan"

/-- A time in seconds as it is written. -/
def secondsText (t : Binary64) : String := secondsLayout.text t

structure Settings where
  bindings : List (String × String)
  /-- the identifier of the operating system -/
  system : String
deriving DecidableEq, Repr

/-- What can be wrong with an environment. -/
inductive SettingsError where
  | noHome
  /-- a time to wait that is no number -/
  | badTimeout (text : String)
deriving DecidableEq, Repr

def SettingsError.message : SettingsError → String
  | .noHome => "Could not determine home directory."
  | .badTimeout text =>
    "SCRIPTLOADER_READY_TIMEOUT must be a number of seconds, got " ++ quoted text

namespace Settings

def value? (s : Settings) (name : String) : Option String := s.bindings.lookup name

/-- The value of a variable that is not empty. -/
def filled? (s : Settings) (name : String) : Option String :=
  (s.value? name).filter fun value => value != ""

/-- The home directory.  A value that starts with a tilde is no directory. -/
def home (s : Settings) : Except SettingsError Path :=
  match s.value? "HOME" with
  | none => .error .noHome
  | some value =>
    let kept := (value.toList.reverse.dropWhile (· == '/')).reverse
    match kept with
    | [] => .ok ⟨.single, []⟩
    | '~' :: _ => .error .noHome
    | kept => .ok (.ofString (String.ofList kept))

/-- Whether the operating system keeps its data where Windows does. -/
def isWindows (s : Settings) : Bool := "win".isPrefixOf s.system

/-- The directory for data of applications of the user. -/
def appData (s : Settings) : Except SettingsError Path :=
  if s.isWindows then
    match s.filled? "LOCALAPPDATA" with
    | some value => .ok (.ofString value)
    | none => s.home.map fun home => (home.entry "AppData").entry "Local"
  else
    match s.filled? "XDG_DATA_HOME" with
    | some value => .ok (.ofString value)
    | none => s.home.map fun home => (home.entry ".local").entry "share"

def installRoot (s : Settings) : Except SettingsError Path :=
  match s.filled? "SCRIPTLOADER_HOME" with
  | some value => .ok (.ofString value)
  | none => s.appData.map fun data => data.entry "GamePluginKit"

/-- The helper to use instead of the installed one. -/
def helper? (s : Settings) : Option Path := (s.filled? "SCRIPTLOADER_HELPER").map .ofString

/-- How long to wait for the helper where nothing is set. -/
def defaultTimeout : Binary64 := .ofDecimal false 30 0

/-- How long to wait for the helper. -/
def readyTimeout (s : Settings) : Except SettingsError Binary64 :=
  match s.filled? "SCRIPTLOADER_READY_TIMEOUT" with
  | none => .ok defaultTimeout
  | some value =>
    match Real.parse? value with
    | some t => .ok t
    | none => .error (.badTimeout value)

/-- The name of the least level of log records that are shown. -/
def logLevel (s : Settings) : String := upper ((s.value? "SCRIPTLOADER_LOG_LEVEL").getD "WARNING")

end Settings

end PluginBuild
