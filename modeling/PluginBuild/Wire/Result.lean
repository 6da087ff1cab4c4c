/-
# Wire.Result -- what the helper answers

A result is either a library or the diagnostics that say why there is none.  On
the pipe it is a truth value followed by a blob, or by the number of diagnostics
and the diagnostics.  It is put together first and written at once, so the host
never sees a part of it.
-/
import PluginBuild.Wire.Action

namespace PluginBuild.Wire

set_option autoImplicit false

structure CompileResult where
  success : Bool
  /-- the library, if there is one -/
  payload : List UInt8
  diagnostics : List String
deriving DecidableEq, Repr

namespace CompileResult

def succeeded (payload : List UInt8) : CompileResult := ⟨true, payload, []⟩

def failed (diagnostics : List String) : CompileResult := ⟨false, [], diagnostics⟩

end CompileResult

namespace Writer

/-- Writes the parts of a result one after the other. -/
def resultParts (r : CompileResult) : Writer Unit := do
  boolean r.success
  if r.success then blob r.payload
  else do
    int32 r.diagnostics.length
    r.diagnostics.forM string

/-- Writes a result at once and flushes it. -/
def result (r : CompileResult) : Writer Unit :=
  match (resultParts r).operations.1 with
  | .error e => throw e
  | .ok () => do
    write (resultParts r).bytes
    flush

end Writer

namespace Reader

/-- Reads a result; every end of the stream is an error, since the result is owed. -/
def result : Reader CompileResult :=
  tryCatch
    (do
      if ← boolean then return .succeeded (← blob)
      let count ← int32
      if count < 0 then throw (.negativeCount count)
      return .failed (← strings count.toNat))
    fun e => throw (match e with
      | .closed item => .absentResult item
      | e => e)

end Reader

end PluginBuild.Wire
