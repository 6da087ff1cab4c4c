/-
# Launch.Child -- a child process and the pipes to it

A program is known by what it has come to after what it was given: its output, its
exit code once it has ended, and what it said apart from its output.

The pipe to a child keeps back what is written as long as it has room, and offers it to the
child when the room is used up, when it is flushed and when it is closed.  A child may take
less than it is offered.  Either nobody reads any more, and what is offered is refused, or
nobody reads for now, and who offers it waits for ever.
-/
import PluginBuild.Launch.Command
import PluginBuild.Program.Helper

namespace PluginBuild

set_option autoImplicit false

open PluginBuild.Wire

/-- What a program has come to. -/
structure Status where
  /-- all that it writes; behind it its output ends -/
  output : List UInt8
  /-- its exit code, once it has ended -/
  exit : Option Int
  /-- what it said apart from its output -/
  said : String
deriving DecidableEq, Repr

structure Program where
  /-- what it has come to after some deliveries, and whether its input is closed -/
  status : List (List UInt8) → Bool → Status

namespace Program

/-- The exit code of a program that has ended.  If it had ended before its input was closed, the
closing changes nothing about that. -/
def exit (p : Program) (deliveries : List (List UInt8)) (closed : Bool) : Option Int :=
  (p.status deliveries false).exit.or (if closed then (p.status deliveries true).exit else none)

/-- A program that writes its output at once and ends when its input is closed, or
earlier, after some deliveries.  One that hangs never ends by itself. -/
def script (output : List UInt8) (code : Int) (endsAfter : Option Nat) (hangs : Bool) : Program where
  status deliveries closed :=
    let ends := !hangs && (closed || endsAfter.any (· ≤ deliveries.length))
    ⟨output, if ends then some code else none, ""⟩

/-- The helper.  As long as its input is open it acts on whole frames, and waits while it may be
sent more; what it says is what it will have said if nothing more comes. -/
def helper (s : Helper.Setting) : Program where
  status deliveries closed :=
    let input := deliveries.flatten
    let r := Helper.run s [] (if closed then input else wholeFrames input)
    let waits := r.ending = .starved ∧ closed = false
    ⟨r.outputBytes, if waits then none else some r.ending.code, (Helper.run s [] input).errorText⟩

end Program

/-- What a child does on the pipe that it says on that it is ready. -/
inductive Readiness where
  | signals
  /-- closes it without a word -/
  | closes
  | silent
deriving DecidableEq, Repr

/-- Why a child takes no more of what it is offered. -/
inductive Halt where
  /-- nobody reads any more -/
  | refused
  /-- nobody reads for now, and nobody ever will -/
  | endless
deriving DecidableEq, Repr

/-- What starting a child leads to. -/
structure Behaviour where
  startError : Option SpawnError
  readiness : Readiness
  /-- whether nobody reads its input -/
  deaf : Bool
  program : Program
  /-- how many bytes the pipe to it keeps back; where there is no bound, all until a flush -/
  holds : Option Nat := none
  /-- how many it takes of the bytes that it is offered after some deliveries, and why no more,
  unless it takes them all -/
  intake : List (List UInt8) → List UInt8 → Option (Nat × Halt) := fun _ _ => none
  /-- for how many nanoseconds it is still there at its end, after some deliveries -/
  lingers : List (List UInt8) → Nat := fun _ => 0

/-- A child that has been started. -/
structure Child where
  arguments : List String
  behaviour : Behaviour
  /-- what was written and not yet delivered -/
  buffer : List UInt8
  deliveries : List (List UInt8)
  /-- why it takes no more, once it has not taken all that it was offered -/
  stop : Option Halt
  inputOpen : Bool
  outputOpen : Bool
  /-- how much of its output has been read -/
  outputRead : Nat
  /-- its exit code, once it has been asked for -/
  code : Option Int

namespace Child

abbrev Step (α : Type) := Act Child Halt α

/-- A child that was just started. -/
def fresh (arguments : List String) (b : Behaviour) : Child :=
  ⟨arguments, b, [], [], none, true, true, 0, none⟩

/-- What a child has come to. -/
def status (c : Child) : Status := c.behaviour.program.status c.deliveries !c.inputOpen

/-- The exit code of a child that has ended. -/
def ended? (c : Child) : Option Int :=
  c.code.or (c.behaviour.program.exit c.deliveries !c.inputOpen)

def poll (c : Child) : Child := { c with code := c.ended? }

/-- The exit code of a child that was killed. -/
def killedCode : Int := -9

def kill (c : Child) : Child := { c with code := some (c.code.getD killedCode) }

/-! ## Waiting for the end -/

/-- For how many nanoseconds a child that is waited for is still there, if it ends. -/
def lasts? (c : Child) : Option Nat :=
  if c.code.isSome then some 0
  else c.ended?.map fun _ => c.behaviour.lingers c.deliveries

/-- Whether a child that is waited for ends by itself; a limit that there is none of never
passes. -/
def endsWithin (c : Child) (limit : Option Nat) : Bool :=
  c.lasts?.any fun time => limit.all fun most => decide (time ≤ most)

/-! ## Input -/

/-- All the bytes that a child has been delivered. -/
def given (c : Child) : List UInt8 := c.deliveries.flatten

/-- Why a child takes nothing at all, if it does not. -/
def stopped? (c : Child) : Option Halt :=
  if c.behaviour.deaf || c.ended?.isSome then some .refused else c.stop

/-- A child with bytes delivered to it, if there are any. -/
def give (c : Child) (bytes : List UInt8) : Child :=
  if bytes.isEmpty then c else { c with deliveries := c.deliveries ++ [bytes] }

/-- A child that has been offered bytes in place of what waits.  What it has not taken waits
then. -/
def offered (c : Child) (bytes : List UInt8) : Child :=
  if bytes.isEmpty then { c with buffer := [] }
  else match c.stopped? with
    | some stop => { c with buffer := bytes, stop := some stop }
    | none =>
      match c.behaviour.intake c.deliveries bytes with
      | none => { c.give bytes with buffer := [] }
      | some (n, stop) =>
        let c := c.give (bytes.take n)
        { c with
          buffer := bytes.drop n
          stop := some (if c.ended?.isSome then .refused else stop) }

/-- Whether the pipe to a child has room for so many bytes. -/
def fits (c : Child) (size : Nat) : Bool := c.behaviour.holds.all fun most => decide (size ≤ most)

/-- Keeps bytes back behind those that wait. -/
def keep (bytes : List UInt8) : Step Unit := Act.modify fun c => { c with buffer := c.buffer ++ bytes }

/-- Delivers what waits.  What is not taken goes on waiting. -/
def flush : Step Unit := fun c =>
  let c := c.offered c.buffer
  ⟨if c.buffer.isEmpty then .ok () else .error (c.stop.getD .refused), c, []⟩

/-- Delivers bytes that there is no room for.  If nobody reads any more, then what is left of them
waits where there is room for that, and is lost elsewhere. -/
def pass (bytes : List UInt8) : Step Unit := fun c =>
  let c := c.offered bytes
  if c.buffer.isEmpty || (decide (c.stop = some .refused) && c.fits c.buffer.length) then
    ⟨.ok (), c, []⟩
  else ⟨.error (c.stop.getD .refused), { c with buffer := [] }, []⟩

/-- Writes to the input.  Where there is no room, what waits is delivered first. -/
def write (bytes : List UInt8) : Step Unit := do
  let c ← Act.get
  if c.fits (c.buffer.length + bytes.length) then keep bytes
  else do
    flush
    if c.fits bytes.length then keep bytes else pass bytes

def perform : PipeOp → Step Unit
  | .write bytes => write bytes
  | .flush => flush

/-- Closes the input.  What waits is offered before, and whatever comes of that, the input is
closed, unless the offer takes for ever. -/
def closeInput : Step Unit := fun c =>
  if c.inputOpen then
    match flush c with
    | ⟨.error .endless, c, events⟩ => ⟨.error .endless, c, events⟩
    | ⟨result, c, events⟩ => ⟨result, { c with inputOpen := false }, events⟩
  else ⟨.ok (), c, []⟩

/-! ## Output -/

def read {α : Type} (c : Child) (r : Reader α) : Except ReadError α × Child :=
  let left := c.status.output.drop c.outputRead
  let (result, pipe) := r.runOn (.whole left)
  (result, { c with outputRead := c.outputRead + (left.length - pipe.rest.length) })

end Child

end PluginBuild
