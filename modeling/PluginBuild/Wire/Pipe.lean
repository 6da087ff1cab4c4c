/-
# Wire.Pipe -- the two ends of a pipe

The reading end hands out its bytes in pieces: a read returns at most as many
bytes as were asked for, and the pipe itself may cut it shorter, but a read of an
open pipe is never empty.  `Pipe.fill` reads until it has all the bytes it wants
or the pipe ends.  The writing end is seen as the list of what was done to it.
-/
import PluginBuild.Wire.Error

namespace PluginBuild.Wire

set_option autoImplicit false

/-- The reading end of a pipe. -/
structure Pipe where
  /-- the bytes not yet read -/
  rest : List UInt8
  /-- the most that each read returns; at least one byte is returned all the same -/
  cuts : Nat → Nat
  /-- how many reads there have been -/
  reads : Nat

namespace Pipe

/-- A pipe that cuts every read to at most `limit` bytes. -/
def ofBytes (bytes : List UInt8) (limit : Nat) : Pipe := ⟨bytes, fun _ => limit, 0⟩

/-- A pipe that returns as many bytes as are asked for. -/
def whole (bytes : List UInt8) : Pipe := ⟨bytes, fun _ => bytes.length, 0⟩

/-- How many bytes the next read returns, when `size` are asked for. -/
def portion (p : Pipe) (size : Nat) : Nat := min size (max 1 (p.cuts p.reads))

/-- One read of at most `size` bytes. -/
def read (p : Pipe) (size : Nat) : List UInt8 × Pipe :=
  (p.rest.take (p.portion size), { p with rest := p.rest.drop (p.portion size), reads := p.reads + 1 })

/-- Reads until `size` bytes have been read or a read returns none. -/
def fill (p : Pipe) (size : Nat) : List UInt8 × Pipe :=
  if _ : size = 0 then ([], p)
  else
    match p.read size with
    | ([], p') => ([], p')
    | (b :: chunk, p') =>
      have : size - (chunk.length + 1) < size := by omega
      let (more, p'') := p'.fill (size - (chunk.length + 1))
      (b :: chunk ++ more, p'')
termination_by size

end Pipe

/-- Reads values off a pipe; what has been read stays read when it fails. -/
abbrev Reader := ExceptT ReadError (StateM Pipe)

/-- What a reader makes of a pipe, and what it leaves of the pipe. -/
def Reader.runOn {α : Type} (r : Reader α) (p : Pipe) : Except ReadError α × Pipe := r.run.run p

/-- One operation on the writing end of a pipe. -/
inductive PipeOp where
  | write (bytes : List UInt8)
  | flush
deriving DecidableEq, Repr

/-- The bytes that an operation puts on the pipe. -/
def PipeOp.bytes : PipeOp → List UInt8
  | .write bytes => bytes
  | .flush => []

/-- Writes values to a pipe; what has been written stays written when it fails. -/
abbrev Writer := ExceptT WriteError (StateM (List PipeOp))

namespace Writer

def write (bytes : List UInt8) : Writer Unit := modify (· ++ [.write bytes])

/-- Hands what was written to the peer. -/
def flush : Writer Unit := modify (· ++ [.flush])

/-- What a writer does to a pipe, and whether it succeeds. -/
def operations {α : Type} (w : Writer α) : Except WriteError α × List PipeOp := w.run.run []

/-- The bytes that a writer puts on a pipe. -/
def bytes {α : Type} (w : Writer α) : List UInt8 := w.operations.2.flatMap PipeOp.bytes

end Writer

end PluginBuild.Wire
