/-
# Launch.Supervisor -- owning the helper process

A supervisor starts one child, sends it actions, asks it once to compile, tells it
to finish, and closes it: afterwards the child has ended, by itself or killed when
its time is up.  A child that does not become ready is given up at once, so that
another can be started.  A time to wait that the operating system refuses leaves the
child as it is.

A call that waits for something that never comes does not come back.  This is an outcome of its
own (`SupervisorError.never`), behind which nothing else is done.
-/
import PluginBuild.File.Tree
import PluginBuild.Launch.Child

namespace PluginBuild

set_option autoImplicit false

open PluginBuild.Wire PluginBuild.Number

/-! ## Times to wait -/

/-- Why waiting comes to nothing. -/
inductive WaitError where
  | notANumber
  | negative
  /-- a time that 64 bits of nanoseconds do not hold -/
  | outOfRange
  /-- what is waited for never comes -/
  | endless
deriving DecidableEq, Repr

namespace WaitError

/-- What the operating system says of a time that it refuses.  The wording is that of one release
of the runtime; others word a time out of range differently.  Who waits for ever hears nothing. -/
def message : WaitError → String
  | notANumber => "Invalid value NaN (not a number)"
  | negative => "timeout must be non-negative"
  | outOfRange => "timestamp too large to convert to C _PyTime_t"
  | endless => ""

def nanoseconds : Nat := 1000000000

/-- A finite time in nanoseconds, rounded to a binary64 number. -/
def inNanoseconds (isNegative : Bool) (mantissa : Nat) (exponent : Int) : Binary64 :=
  let (num, den) := Binary64.ratio mantissa exponent
  .ofRatio isNegative (num * nanoseconds) den

/-- How the magnitude of a number compares with 2^63, the first that 64 bits with a sign do
not hold. -/
def compareWith64 : Binary64 → Ordering
  | .finite _ mantissa exponent =>
    let (num, den) := Binary64.ratio mantissa exponent
    compare num (Nat.pow 2 63 * den)
  | _ => .gt

/-- Why the operating system refuses to wait for a time, if it does.  A time of exactly 2^63
nanoseconds is taken for a negative one, as the release does whose wording `message` has; later
ones find it out of range. -/
def of? : Binary64 → Option WaitError
  | .nan => some notANumber
  | .infinite _ => some outOfRange
  | .finite isNegative mantissa exponent =>
    match compareWith64 (inNanoseconds isNegative mantissa exponent) with
    | .gt => some outOfRange
    | .eq => some negative
    | .lt => if isNegative && mantissa != 0 then some negative else none

end WaitError

/-- How many nanoseconds the wait for an end may take, by the time that is given for it.  Such a
time is never refused: one below zero has passed at once, and one that is infinite or no number
never passes. -/
def patience : Binary64 → Option Nat
  | .nan => none
  | .infinite isNegative => if isNegative then some 0 else none
  | .finite isNegative mantissa exponent =>
    let (num, den) := Binary64.ratio mantissa exponent
    some (if isNegative then 0 else num * WaitError.nanoseconds / den)

/-! ## Supervisors -/

/-- An attempt to start a child. -/
inductive Attempt where
  /-- the operating system refused -/
  | refused (arguments : List String)
  | started (child : Child)

structure Supervisor where
  helper : Path
  platform : Platform
  readyTimeout : Binary64
  exitTimeout : Binary64
  child : Option Child
  compileRequested : Bool
  finished : Bool
  /-- the attempts before the child, none of which came to anything -/
  former : List Attempt

/-- What starting a child takes from the operating system. -/
structure Launcher where
  interpreter : String
  /-- the descriptor on which a child says that it is ready, where it can be given one -/
  descriptor : Option Nat
  processId : Nat
  /-- what starting a child leads to, with the files that there are -/
  behaviour : FileSystem → Behaviour

/-- Why a supervisor refuses or fails. -/
inductive SupervisorError where
  | alreadyStarted
  | notRunning
  | finishSent
  | alreadyCompiled
  /-- an action that has a method of its own -/
  | ownMethod (action : Action)
  | launch (cause : LaunchError)
  | line (cause : CommandLine.Fault)
  | wait (cause : WaitError)
  | file (cause : File.Error)
  | write (cause : WriteError)
  /-- the child does not read its input -/
  | inputClosed
  | read (cause : ReadError)
deriving DecidableEq

namespace SupervisorError

def brokenPipe : String := "[Errno 32] Broken pipe"

def message : SupervisorError → String
  | alreadyStarted => "Compiler helper already started"
  | notRunning => "Compiler helper is not running"
  | finishSent => "FINISH has been sent; no further actions are allowed"
  | alreadyCompiled => "COMPILE was already sent to this helper"
  | ownMethod action =>
    "Use " ++ String.ofList (action.name.toList.map Char.toLower) ++ "() to send " ++ action.name
  | launch cause => cause.message
  | line cause => cause.message
  | wait cause => cause.message
  | file cause => cause.message
  | write cause => cause.message
  | inputClosed => "Compiler helper closed its input: " ++ brokenPipe
  | read cause => cause.message

/-- The error of a command that could not be built. -/
def ofCommand : Launch.CommandError → SupervisorError
  | .launch cause => launch cause
  | .line cause => line cause

/-- The outcome of a call that does not come back. -/
def never : SupervisorError := wait .endless

/-- What becomes of a call whose bytes are not taken. -/
def ofHalt : Halt → SupervisorError
  | .refused => inputClosed
  | .endless => never

/-- Whether an error says that the protocol was broken off or violated. -/
def isProtocol : SupervisorError → Bool
  | inputClosed | read _ => true
  | _ => false

end SupervisorError

namespace Supervisor

variable {α : Type}

abbrev Step (α : Type) := Act Supervisor SupervisorError α

/-- How long a child may take to end. -/
def defaultExitTimeout : Binary64 := .ofDecimal false 10 0

def fresh (helper : Path) (platform : Platform) (readyTimeout exitTimeout : Binary64) : Supervisor :=
  ⟨helper, platform, readyTimeout, exitTimeout, none, false, false, []⟩

/-- The exit code of the child, once it has been asked for. -/
def code (s : Supervisor) : Option Int := s.child.bind Child.code

def attempts (s : Supervisor) : List Attempt := s.former ++ (s.child.map Attempt.started).toList

def log (level : Log.Level) (text : String) : Step Unit := Act.log level Launch.logger text

def change (f : Child → Child) : Step Unit := Act.modify fun s => { s with child := s.child.map f }

/-- Does something to the input of the child. -/
def onChild (x : Child.Step Unit) : Step Unit := fun s =>
  match s.child with
  | none => ⟨.error .notRunning, s, []⟩
  | some c =>
    let o := x c
    ⟨o.result.mapError .ofHalt, { s with child := some o.state }, o.events⟩

/-- One thing and then another, also where the first fails, as long as it comes back. -/
def ensuring (x : Step α) (last : Step Unit) : Step α := do
  let result ← x.attempt
  match result with
  | .error (.wait .endless) => Act.fail .never
  | _ => do
    last
    Act.ofExcept result

/-- Closes the input of the child and then the output. -/
def closePipes : Step Unit := do
  (onChild Child.closeInput).handle fun e =>
    if e.isProtocol then log .debug "Compiler helper closed its input before teardown" else Act.fail e
  change fun c => { c with outputOpen := false }

/-! ## Starting -/

/-- Gives up the child, which is killed if it has not ended.  The answer is its exit
code. -/
def abort (c : Child) : Step Int := do
  let c := match c.ended? with
    | some _ => c.poll
    | none => c.kill
  Act.modify fun s => { s with child := some c }
  closePipes
  Act.modify fun s => { s with child := none, former := s.attempts }
  return c.code.getD Child.killedCode

/-- Waits until the child says that it is ready; without a descriptor, looks once
whether it has ended. -/
def awaitReady (l : Launcher) (readiness : Readiness) (c : Child) : Step Unit := do
  match l.descriptor with
  | none =>
    if c.ended?.isSome then do
      let _ ← abort c
      Act.fail (.launch .endedAtOnce)
  | some _ =>
    let timeout := (← Act.get).readyTimeout
    match WaitError.of? timeout with
    | some cause => Act.fail (.wait cause)
    | none =>
      match readiness with
      | .signals => return ()
      | .silent => do
        let _ ← abort c
        Act.fail (.launch (.notReady timeout))
      | .closes => do
        let code ← abort c
        Act.fail (.launch (.endedEarly code))

def helperArguments (l : Launcher) : List String :=
  match l.descriptor with
  | some n => ["--ready-fd", toString n]
  | none => []

/-- Starts a child with a command. -/
def spawn (l : Launcher) (b : Behaviour) (arguments : List String) : Step Unit := do
  match b.startError with
  | some cause => do
    Act.modify fun s => { s with former := s.former ++ [.refused arguments] }
    Act.fail (.launch (.notStarted cause))
  | none => do
    let c := Child.fresh arguments b
    Act.modify fun s => { s with child := some c }
    log .info ("Started compiler helper (pid " ++ toString l.processId ++ ")")
    awaitReady l b.readiness c

def start (files : FileSystem) (l : Launcher) : Step Unit := do
  let s ← Act.get
  if s.child.isSome then Act.fail .alreadyStarted
  else do
    let isThere ← Act.ofExcept ((files.exists? s.helper).mapError .file)
    if !isThere then Act.fail (.launch (.helperAbsent s.helper))
    else do
      let _ ← Act.ofExcept ((Launch.mode s.platform).mapError .launch)
      let arguments ← ((Launch.command l.interpreter s.helper s.platform (helperArguments l)).mapError
        SupervisorError.ofCommand).free
      spawn l (l.behaviour files) arguments

/-! ## Talking -/

/-- The child, as long as it may be sent actions. -/
def talkingTo : Step Child := do
  let s ← Act.get
  match s.child with
  | none => Act.fail .notRunning
  | some c => if s.finished then Act.fail .finishSent else return c

/-- Writes a frame, without flushing it. -/
def writeFrame (action : Action) (arguments : List Argument) : Step Unit := do
  let c ← talkingTo
  match (Writer.action action arguments).operations with
  | (.error e, []) => Act.fail (.write e)
  | (result, operations) =>
    if !c.inputOpen then Act.fail (.write .closedPipe)
    else do
      onChild (operations.forM Child.perform)
      Act.ofExcept (result.mapError .write)

def flush : Step Unit := do
  let _ ← talkingTo
  onChild Child.flush

/-- Sends an action that configures the session. -/
def send (action : Action) (arguments : List Argument) : Step Unit :=
  match action with
  | .compile | .finish => Act.fail (.ownMethod action)
  | _ => writeFrame action arguments

/-- Reads a result from the child.  This comes behind a request that went through, so the pipes
are open. -/
def readResult : Step CompileResult := fun s =>
  match s.child with
  | none => ⟨.error .notRunning, s, []⟩
  | some c =>
    let (result, c) := c.read Reader.result
    ⟨result.mapError .read, { s with child := some c }, []⟩

/-- Asks the child to compile, which may be done once, and waits for the result. -/
def compile : Step CompileResult := do
  if (← Act.get).compileRequested then Act.fail .alreadyCompiled
  else do
    Act.modify fun s => { s with compileRequested := true }
    writeFrame .compile []
    flush
    readResult

def finish : Step Unit := do
  writeFrame .finish []
  flush
  Act.modify fun s => { s with finished := true }

/-! ## Closing -/

/-- Tells the child to finish, if that is still owed and the child has not ended. -/
def finishOwed : Step Unit := do
  if (← Act.get).finished then return ()
  else do
    change Child.poll
    if (← Act.get).code.isSome then return ()
    else
      finish.handle fun e =>
        if e.isProtocol then log .debug ("Could not send FINISH: " ++ e.message) else Act.fail e

/-- Waits for the child to end, and kills it when its time is up. -/
def reap : Step Unit := do
  let s ← Act.get
  let limit := patience s.exitTimeout
  if s.child.any (Child.endsWithin · limit) then change Child.poll
  else if limit.isNone then Act.fail .never
  else do
    log .warning ("Compiler helper did not exit within " ++ secondsText s.exitTimeout
      ++ "s, killing it")
    change Child.kill

/-- Closes both pipes and waits for the end of the child. -/
def tearDown : Step Unit := do
  closePipes
  reap
  log .info ("Compiler helper exited with code " ++ match (← Act.get).code with
    | some code => toString code
    | none => "None")

def close : Step Unit := do
  if (← Act.get).child.isNone then return ()
  else ensuring finishOwed tearDown

end Supervisor

end PluginBuild
