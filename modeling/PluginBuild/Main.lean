/-
# Main -- the program, bound to its surroundings

The program is given its words and the variables of its environment.  It is given no
files and nothing to start children with, so a build ends where it looks for its
helper; everything before that, and everything it shows, is as in any surroundings.
-/
import PluginBuild.Program.Compile

namespace PluginBuild

set_option autoImplicit false

/-- The variables that the program asks for. -/
def askedVariables : List String :=
  ["HOME", "LOCALAPPDATA", "PATH", "PATHEXT", "SCRIPTLOADER_HELPER", "SCRIPTLOADER_HOME",
    "SCRIPTLOADER_LOG_LEVEL", "SCRIPTLOADER_READY_TIMEOUT", "XDG_DATA_HOME"]

/-- The variables of the environment that are set. -/
def environment (names : List String) : IO (List (String × String)) :=
  names.filterMapM fun name => do return (← IO.getEnv name).map fun value => (name, value)

def emptyWorkshop (settings : Settings) : Workshop where
  files := ⟨.dir [], []⟩
  settings := settings
  launcher :=
    { interpreter := "python3"
      descriptor := none
      processId := 0
      behaviour := fun _ =>
        { startError := some ⟨2, "No such file or directory", none⟩
          readiness := .closes
          deaf := true
          program := .script [] 1 (some 0) false } }

end PluginBuild

open PluginBuild in
/-- Runs the program; its exit code is the program's. -/
def main (words : List String) : IO UInt32 := do
  let settings : Settings := ⟨← environment askedVariables, "linux"⟩
  let o := Compile.run ⟨emptyWorkshop settings, ⟨.ofString "helper", .ofString "shims"⟩⟩ words .fresh
  IO.print o.state.shown.output
  IO.eprint o.state.shown.errors
  match o.result with
  | .ok code => return code.toNat.toUInt32
  | .error e => do
    IO.eprintln e.message
    return 1
