/-
# Program.Helper -- the program that compiles for a host

The helper reads its options, says on a descriptor that it is ready, and serves one
session from its input to its output.  How it ends says what happened: it was told
to finish, the host went away, the host broke the protocol, or something failed that
it is not prepared for.
-/
import PluginBuild.Host.Settings
import PluginBuild.Log
import PluginBuild.Program.Options
import PluginBuild.Session.Serve

namespace PluginBuild.Helper

set_option autoImplicit false

open PluginBuild.Options PluginBuild.Wire

def logger : String := "scriptloader.compiler.helper"

def manual : Manual where
  program := "scriptc.py"
  usage := "usage: scriptc.py [-h] [--ready-fd READY_FD] [--name NAME]\n"
  description :=
    "Script plugin compiler helper\n\n"
      ++ "options:\n"
      ++ "  -h, --help           show this help message and exit\n"
      ++ "  --ready-fd READY_FD  Inherited file descriptor to write one byte to once\n"
      ++ "                       stdin is being read\n"
      ++ "  --name NAME          Name of the compiled library\n"
  specs := [Manual.helpSpec, ⟨["--ready-fd"], .value .integer, false⟩, ⟨["--name"], .value .text, false⟩]

/-- What the helper says when it is ready. -/
def readyByte : UInt8 := 1

/-- What the helper is run in. -/
structure Setting where
  settings : Settings
  compiler : Compiler
  /-- the archive that stands in for a full runtime -/
  shim : Path
  /-- the descriptor that the host listens on -/
  listening : Option Int

/-- Why the helper cannot say that it is ready. -/
inductive SignalError where
  /-- a descriptor was asked for and not given -/
  | noDescriptor
  | badDescriptor
  | descriptorTooLarge
deriving DecidableEq, Repr

def SignalError.message : SignalError → String
  | .noDescriptor => "'list' object cannot be interpreted as an integer"
  | .badDescriptor => "[Errno 9] Bad file descriptor"
  | .descriptorTooLarge => "Python int too large to convert to C int"

/-- Says on a descriptor that the helper is ready, where one was given. -/
def signal (listening : Option Int) : Option Int → Except SignalError Unit
  | none => .error .noDescriptor
  | some descriptor =>
    if listening = some descriptor then .ok ()
    else if fitsInt32 descriptor then .error .badDescriptor
    else .error .descriptorTooLarge

inductive Ending where
  /-- help was shown -/
  | helped
  /-- its options are wrong -/
  | refused (fault : Fault)
  /-- no level of log records is called so -/
  | badLevel (cause : Log.UnknownLevel)
  | notSignalled (cause : SignalError)
  | finished
  /-- the input ended between two frames -/
  | starved
  /-- the host broke the protocol -/
  | violated (cause : ServeError)
  | failed (cause : ServeError)
deriving DecidableEq, Repr

namespace Ending

/-- The exit code of an ending. -/
def code : Ending → Int
  | helped => 0
  | refused _ => 2
  | badLevel _ => 1
  | notSignalled _ => 1
  | finished => 0
  | starved => 1
  | violated _ => 2
  | failed _ => 1

def ofServing : Except ServeError Unit → Ending
  | .ok () => finished
  | .error e =>
    if e.isEndOfInput then starved
    else match e with
      | .read _ | .truncatedFrame _ _ | .session (.alreadyCompiled _) => violated e
      | _ => failed e

/-- What the helper logs about its ending. -/
def record? : Ending → Option Log.Record
  | starved => some ⟨.warning, logger, "Host closed the stream without sending FINISH"⟩
  | violated cause => some ⟨.error, logger, "Stopping compiler helper: " ++ cause.message⟩
  | _ => none

end Ending

structure Run where
  ending : Ending
  /-- whether it said that it is ready -/
  signalled : Bool
  /-- what it wrote to its output -/
  output : List PipeOp
  /-- what happened while it served -/
  events : List Event
  /-- which log records it shows -/
  log : Log.State

namespace Run

/-- A run that ended before it served. -/
def before (ending : Ending) (log : Log.State) : Run := ⟨ending, false, [], [], log⟩

def outputBytes (r : Run) : List UInt8 := r.output.flatMap PipeOp.bytes

/-- The lines that show some log records. -/
def lines (r : Run) (records : List Log.Record) : String :=
  String.join ((records.filter fun record => r.log.passes record.level).map Log.Record.line)

/-- What it shows apart from its output while it serves. -/
def servingText (r : Run) : String := r.lines (r.events.filterMap Event.record?)

/-- What it shows apart from its output. -/
def errorText (r : Run) : String :=
  match r.ending with
  | .refused fault => manual.refusal fault
  | ending => r.servingText ++ r.lines ending.record?.toList

/-- The text it shows when it is asked for help. -/
def helpText (r : Run) : String :=
  match r.ending with
  | .helped => manual.help
  | _ => ""

end Run

/-- The stream of log records, of which the helper has but one. -/
def logStream : Nat := 0

/-- Serves a session, once the options are known; a descriptor may have been asked for
and not given. -/
def serve (s : Setting) (name : LibraryName) (descriptor : Option (Option Int)) (input : List UInt8) : Run :=
  match Log.State.fresh.configure logStream (.named s.settings.logLevel) with
  | (.error cause, log) => .before (.badLevel cause) log
  | (.ok (), log) =>
    match descriptor.mapM (signal s.listening) with
    | .error cause => .before (.notSignalled cause) log
    | .ok _ =>
      let o := Connection.serve s.compiler ⟨.fresh name (some s.shim) none, .whole input, []⟩
      ⟨.ofServing o.result, descriptor.isSome, o.state.output, o.events, log⟩

def run (s : Setting) (arguments : List String) (input : List UInt8) : Run :=
  match Options.parse manual.specs arguments with
  | .error .help => .before .helped .fresh
  | .error (.fault fault) => .before (.refused fault) .fresh
  | .ok request =>
    let name := match request.values? "--name" with
      | none => some Session.defaultName
      | some values => values.head?
    let descriptor := (request.values? "--ready-fd").map fun values =>
      values.head?.bind Number.Integer.parse?
    serve s name descriptor input

end PluginBuild.Helper
