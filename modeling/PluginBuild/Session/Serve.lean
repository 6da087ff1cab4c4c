/-
# Session.Serve -- a session driven from the other end of a pipe

The helper reads one frame after the other and applies it to its session until it
is told to finish.  What it reads and writes stays done when a frame fails.  Each
frame takes at least its code off the pipe, so serving ends.
-/
import PluginBuild.Session.Basic
import PluginBuild.Wire.Progress

namespace PluginBuild

set_option autoImplicit false

open PluginBuild.Wire

/-- A session, the pipe it reads actions from and what it has written. -/
structure Connection where
  session : Session
  input : Pipe
  output : List PipeOp

inductive ServeError where
  | read (cause : ReadError)
  | write (cause : WriteError)
  | session (cause : SessionError)
  /-- the input ended within the frame of an action -/
  | truncatedFrame (action : Action) (cause : String)
deriving DecidableEq, Repr

namespace ServeError

def message : ServeError → String
  | read cause => cause.message
  | write cause => cause.message
  | session cause => cause.message
  | truncatedFrame action cause => "Truncated " ++ action.name ++ " frame: " ++ cause

/-- Whether an error is the end of a stream. -/
def isEndOfInput : ServeError → Bool
  | read cause => cause.isEndOfInput
  | session cause => cause.isEndOfInput
  | _ => false

end ServeError

namespace Connection

variable {α : Type}

def logger : String := "scriptloader.compiler.dispatcher"

/-- How many bytes have not been read. -/
def left (c : Connection) : Nat := c.input.rest.length

def read (r : Reader α) : Act Connection ServeError α := fun c =>
  let (result, input) := r.runOn c.input
  ⟨result.mapError .read, { c with input }, []⟩

def write (w : Writer Unit) : Act Connection ServeError Unit := fun c =>
  let (result, ops) := w.operations
  ⟨result.mapError .write, { c with output := c.output ++ ops }, []⟩

def act (x : Act Session SessionError α) : Act Connection ServeError α :=
  (x.mapError ServeError.session).on Connection.session fun session c => { c with session }

/-- Applies an action whose code has been read; the answer is whether to go on. -/
def apply (compiler : Compiler) (action : Action) : Act Connection ServeError Bool :=
  match action with
  | .addSymbol => do
    let symbol ← read Reader.string
    act (Session.addSymbol symbol)
    return true
  | .addSource => do
    let path ← read Reader.string
    let _ ← act (Session.addSource compiler path)
    return true
  | .addReference => do
    let path ← read Reader.string
    act (Session.addReference path)
    return true
  | .enableShim => do
    act Session.enableShim
    return true
  | .compile => do
    let result ← act (Session.compile compiler)
    write (Writer.result result)
    return true
  | .finish => return false

/-- Applies an action; the end of the input within its frame is no clean end. -/
def dispatch (compiler : Compiler) (action : Action) : Act Connection ServeError Bool :=
  (apply compiler action).handle fun e =>
    Act.fail (if e.isEndOfInput then .truncatedFrame action e.message else e)

/-- Reads an action and applies it. -/
def step (compiler : Compiler) : Act Connection ServeError Bool := do
  let action ← read Reader.action
  Act.log .debug logger ("Received " ++ action.name)
  dispatch compiler action

/-! ## Every step shortens the input -/

theorem neverGrows_read {r : Reader α} (h : r.NeverGrows) : (read r).NeverGrows left := fun c => h c.input

theorem neverGrows_write (w : Writer Unit) : (write w).NeverGrows left := fun _ => Nat.le_refl _

theorem neverGrows_act (x : Act Session SessionError α) : (act x).NeverGrows left :=
  fun _ => Nat.le_refl _

theorem neverGrows_dispatch (compiler : Compiler) (action : Action) :
    (dispatch compiler action).NeverGrows left := by
  refine Act.NeverGrows.handle ?_ fun e => Act.neverGrows_fail _
  cases action with
  | addSymbol =>
    exact (neverGrows_read Reader.neverGrows_string).bind fun _ =>
      (neverGrows_act _).bind fun _ => Act.neverGrows_pure _
  | addSource =>
    exact (neverGrows_read Reader.neverGrows_string).bind fun _ =>
      (neverGrows_act _).bind fun _ => Act.neverGrows_pure _
  | addReference =>
    exact (neverGrows_read Reader.neverGrows_string).bind fun _ =>
      (neverGrows_act _).bind fun _ => Act.neverGrows_pure _
  | enableShim => exact (neverGrows_act _).bind fun _ => Act.neverGrows_pure _
  | compile =>
    exact (neverGrows_act _).bind fun _ =>
      (neverGrows_write _).bind fun _ => Act.neverGrows_pure _
  | finish => exact Act.neverGrows_pure _

/-- A step that succeeds has taken bytes off the input. -/
theorem left_lt_of_step {compiler : Compiler} {c : Connection} {goOn : Bool}
    (h : (step compiler c).result = .ok goOn) : (step compiler c).state.left < c.left := by
  revert h
  show (Act.bind (read Reader.action) _ c).result = .ok goOn → (Act.bind (read Reader.action) _ c).state.left < _
  unfold Act.bind
  split
  · intro h
    cases h
  · next a s events eq =>
    intro _
    refine Nat.lt_of_le_of_lt (neverGrows_dispatch compiler a s) ?_
    simp only [read] at eq
    cases hr : Reader.action.runOn c.input with
    | mk result input =>
      rw [hr] at eq
      injection eq with eqResult eqState _
      subst eqState
      cases result with
      | error e => cases eqResult
      | ok a' => exact Reader.length_lt_of_action hr

/-- Applies frames until one says to finish. -/
def serve (compiler : Compiler) (c : Connection) : Outcome Connection ServeError Unit :=
  match h : step compiler c with
  | ⟨.error e, c', events⟩ => ⟨.error e, c', events⟩
  | ⟨.ok false, c', events⟩ => ⟨.ok (), c', events⟩
  | ⟨.ok true, c', events⟩ =>
    have : c'.left < c.left := by
      have := @left_lt_of_step compiler c true (by rw [h])
      rwa [h] at this
    let rest := serve compiler c'
    { rest with events := events ++ rest.events }
termination_by c.left

end Connection

end PluginBuild
