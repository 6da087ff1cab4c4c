/-
# Build -- compiling the scripts of an application

A build plans what to tell the helper (symbols, the small runtime, sources and
references, in this order), has a supervised child compile it, and may load the
library.  Whatever goes wrong with the version, the helper or the connection is
logged as one error, and there is no result; the child is closed in every case.
-/
import PluginBuild.Host.Discovery
import PluginBuild.Host.Symbols
import PluginBuild.Launch.Supervisor
import PluginBuild.Library.Load

namespace PluginBuild

set_option autoImplicit false

open PluginBuild.Wire PluginBuild.Number

structure Build where
  host : Host
  install : Install
  app : App
  /-- the helper to use instead of the one of the installation -/
  helper : Option Path
  /-- how long to wait for the helper, where it is not left to the environment -/
  readyTimeout : Option Binary64
deriving DecidableEq

/-- What a build is done in. -/
structure Workshop where
  files : FileSystem
  settings : Settings
  launcher : Launcher

inductive PlanError where
  | version (cause : Version.Unrecognised)
  | file (cause : File.Error)
deriving DecidableEq, Repr

def PlanError.message : PlanError → String
  | .version cause => cause.message
  | .file cause => cause.message

inductive BuildError where
  | file (cause : File.Error)
  | settings (cause : SettingsError)
  | supervisor (cause : SupervisorError)
  | load (cause : LoadError)
deriving DecidableEq

def BuildError.message : BuildError → String
  | .file cause => cause.message
  | .settings cause => cause.message
  | .supervisor cause => cause.message
  | .load cause => cause.message

namespace Build

variable {σ α : Type}

def logger : String := "scriptloader.host.driver"

/-! ## Planning -/

def symbolFrames (symbols : List String) : List Frame := symbols.map fun s => ⟨.addSymbol, [s]⟩

/-- The frames for the small runtime. -/
def runtimeFrames (host : Host) : List Frame :=
  if host.isMicro then [⟨.enableShim, []⟩, ⟨.addSymbol, [Host.microSymbol]⟩] else []

/-- What to tell the helper before it compiles. -/
def plan (b : Build) (files : FileSystem) : Act Unit PlanError (List Frame) := do
  let symbols ← Act.ofExcept (b.host.symbols.mapError .version)
  let sources ← (Discovery.findSources files b.install b.app).mapError .file
  let references ← (Discovery.findReferences files b.install b.app).mapError .file
  return symbolFrames symbols ++ runtimeFrames b.host
    ++ sources.map (fun path => ⟨.addSource, [path.text]⟩)
    ++ references.map fun path => ⟨.addReference, [path.text]⟩

/-! ## Compiling -/

/-- Sends frames one after the other. -/
def sendAll : List Frame → Supervisor.Step Unit
  | [] => return ()
  | f :: rest => do
    Supervisor.send f.action (f.payload.map Argument.text)
    sendAll rest

/-- What is said to a child that is ready. -/
def talk (frames : List Frame) : Supervisor.Step CompileResult := do
  sendAll frames
  let result ← Supervisor.compile
  Supervisor.finish
  return result

/-- Starts a child, talks to it and closes it. -/
def session (files : FileSystem) (l : Launcher) (frames : List Frame) :
    Supervisor.Step CompileResult := do
  Supervisor.start files l
  Supervisor.ensuring (talk frames) Supervisor.close

/-- Uses a supervisor, and keeps account of its children. -/
def supervised (s : Supervisor) (x : Supervisor.Step α) :
    Act (List Attempt) BuildError (Except SupervisorError α) := fun attempts =>
  let o := x s
  ⟨.ok o.result, attempts ++ o.state.attempts, o.events⟩

/-- Logs an error; there is no result. -/
def giveUp (text : String) : Act σ BuildError (Option α) := do
  Act.log .error logger text
  return none

/-- Gives up because of the version. -/
def giveUpPreparing (cause : Version.Unrecognised) : Act σ BuildError (Option α) :=
  giveUp ("Unable to prepare the script compiler session: " ++ cause.message)

/-- Gives up because there is no running helper. -/
def giveUpStarting (cause : LaunchError) : Act σ BuildError (Option α) :=
  giveUp ("Unable to start the script compiler: " ++ cause.message)

def helperPath (b : Build) (settings : Settings) : Except LaunchError Path :=
  match b.helper with
  | some path => .ok path
  | none => Launch.helperPath settings b.install b.host.platform

/-- How long to wait for the helper. -/
def timeout (b : Build) (settings : Settings) : Except SettingsError Binary64 :=
  match b.readyTimeout with
  | some timeout => .ok timeout
  | none => settings.readyTimeout

def compileFrames (b : Build) (w : Workshop) (frames : List Frame) :
    Act (List Attempt) BuildError (Option CompileResult) := do
  match b.helperPath w.settings with
  | .error cause => giveUpStarting cause
  | .ok helper => do
    let timeout ← Act.ofExcept ((b.timeout w.settings).mapError .settings)
    let s := Supervisor.fresh helper b.host.platform timeout Supervisor.defaultExitTimeout
    match ← supervised s (session w.files w.launcher frames) with
    | .ok result => return some result
    | .error (.launch cause) => giveUpStarting cause
    | .error e =>
      if e.isProtocol then giveUp ("Lost contact with the script compiler: " ++ e.message)
      else Act.fail (.supervisor e)

/-- Plans, and gives up where nothing can be planned for the version. -/
def prepare (b : Build) (files : FileSystem) : Act σ BuildError (Option (List Frame)) := do
  match ← (Act.free (b.plan files)).attempt with
  | .error (.version cause) => giveUpPreparing cause
  | .error (.file cause) => Act.fail (.file cause)
  | .ok frames => return some frames

def compile (b : Build) (w : Workshop) : Act (List Attempt) BuildError (Option CompileResult) := do
  match ← b.prepare w.files with
  | none => return none
  | some frames => b.compileFrames w frames

/-! ## Running -/

/-- What a run changes: the attempts to start a child, and what the loader works on. -/
structure Site (σ : Type) where
  attempts : List Attempt
  ground : σ

def logErrors : List String → Act σ BuildError Unit
  | [] => return ()
  | text :: rest => do
    Act.log .error logger text
    logErrors rest

/-- Compiles the scripts and loads the library. -/
def run (b : Build) (w : Workshop) (loader : List UInt8 → Act σ LoadError α) :
    Act (Site σ) BuildError (Option α) := do
  match ← (b.compile w).on Site.attempts (fun attempts s => { s with attempts }) with
  | none => return none
  | some result =>
    if result.success then
      some <$> ((loader result.payload).mapError .load).on Site.ground
        (fun ground s => { s with ground })
    else do
      logErrors ("Compilation of script plugins failed." :: result.diagnostics)
      return none

end Build

end PluginBuild
