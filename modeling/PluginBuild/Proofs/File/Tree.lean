/-
# Proofs.File.Tree -- what can be told of a path

A text writes no path exactly if it has a null character (`FileSystem.hasNul_ofString`).  What a
path is asked about follows from the node that it leads to: whether it is a file, a directory or
anything, and what can be read.
-/
import PluginBuild.File.Tree
import PluginBuild.Proofs.Except
import PluginBuild.Proofs.File.Path

namespace PluginBuild

set_option autoImplicit false

namespace FileSystem

variable {fs : FileSystem} {p : Path}

theorem hasNul_ofString (s : String) : hasNul (Path.ofString s) = true ↔ '\x00' ∈ s.toList := by
  rw [hasNul, List.contains_iff_mem, Path.mem_text_ofString (by decide) (by decide)]

/-! ## Questions about a path -/

/-- A path leads to a file exactly if the node that it leads to is one. -/
theorem isFile_eq_true : fs.isFile p = .ok true ↔
    ∃ bytes executable, fs.status p = .ok (some (.file bytes executable)) := by
  rw [isFile]
  rcases fs.status p with e | (_ | (⟨bytes, executable⟩ | entries | target)) <;>
    simp [Functor.map, Except.map]

theorem isDirectory_eq_true : fs.isDirectory p = .ok true ↔
    ∃ entries, fs.status p = .ok (some (.dir entries)) := by
  rw [isDirectory]
  rcases fs.status p with e | (_ | (⟨bytes, executable⟩ | entries | target)) <;>
    simp [Functor.map, Except.map]

theorem isFile_eq_error {e : File.Error} : fs.isFile p = .error e ↔ fs.status p = .error e := by
  rw [isFile]
  cases fs.status p <;> simp [Functor.map, Except.map]

/-- A file that a path leads to can be read. -/
theorem read_of_status {bytes : List UInt8} {executable : Bool}
    (status : fs.status p = .ok (some (.file bytes executable))) : fs.read p = .ok bytes := by
  rw [FileSystem.status] at status
  split at status
  · cases status
  · rw [read]
    cases found : fs.find p true with
    | error cause =>
        rw [found] at status
        dsimp only at status
        split at status <;> cases status
    | ok place =>
        obtain ⟨names, node⟩ := place
        rw [found] at status
        cases status
        rfl

end FileSystem

end PluginBuild
