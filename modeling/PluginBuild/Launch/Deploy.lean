/-
# Launch.Deploy -- putting the helper among the tools

Where a helper is run by an interpreter, it is a script with the archives that stand
in for a full runtime, and both are copied.  Where it is run directly, it is a
launcher that has to be on the search path.
-/
import PluginBuild.File.Change
import PluginBuild.Launch.Command

namespace PluginBuild.Deploy

set_option autoImplicit false

open PluginBuild.Text

/-- The files of the helper that are copied. -/
structure HelperFiles where
  script : Path
  /-- the directory of the archives that stand in for a full runtime -/
  shims : Path
deriving DecidableEq, Repr

/-- Why a file could not be copied. -/
inductive CopyError where
  | file (cause : File.Error)
  /-- the target is to be a directory, and is not there -/
  | noDirectory (target : Path)
deriving DecidableEq, Repr

def CopyError.message : CopyError → String
  | .file cause => cause.message
  | .noDirectory target => "Directory does not exist: " ++ target.text

/-- A file that could not be copied. -/
structure FailedCopy where
  source : Path
  target : Path
  cause : CopyError
deriving DecidableEq, Repr

/-- Why the helper could not be deployed. -/
inductive Error where
  | launch (cause : LaunchError)
  /-- no path can be written so -/
  | nulInPath
  | file (cause : File.Error)
  | copy (cause : CopyError)
  /-- a file that is to be copied onto itself, perhaps as an entry of the directory
  that was named -/
  | sameFile (source target : Path) (entry : Bool)
  | copies (failures : List FailedCopy)
deriving DecidableEq

/-- A failed copy in a message. -/
def FailedCopy.text (c : FailedCopy) : String :=
  "(" ++ quoted c.source.text ++ ", " ++ quoted c.target.text ++ ", " ++ quoted c.cause.message ++ ")"

def Error.message : Error → String
  | .launch cause => cause.message
  | .nulInPath => "embedded null byte"
  | .file cause => cause.message
  | .copy cause => cause.message
  | .sameFile source target entry =>
    let shown (p : Path) := "PosixPath(" ++ quoted p.text ++ ")"
    shown source ++ " and " ++ (if entry then quoted target.text else shown target)
      ++ " are the same file"
  | .copies failures => "[" ++ ", ".intercalate (failures.map FailedCopy.text) ++ "]"

/-! ## The search path -/

/-- The directories of the search path. -/
def searchPath (settings : Settings) : List String :=
  match settings.filled? "PATH" with
  | none => []
  | some value => splitAt (· == ':') value

/-- Whether a path leads to a file that can be executed. -/
def isProgram (files : FileSystem) (p : Path) : Bool :=
  !FileSystem.hasNul p && match files.find p true with
    | .ok ⟨_, .file _ executable⟩ => executable
    | _ => false

/-- Where a program is on the search path. -/
def findProgram? (files : FileSystem) (settings : Settings) (name : String) : Option Path :=
  ((searchPath settings).map fun directory => (Path.ofString directory).entry name).find?
    (isProgram files)

/-! ## Copying -/

/-- Whether a file that is copied to a path becomes an entry of it. -/
def isEntered (files : FileSystem) (target : Path) : Bool :=
  match files.isDirectory target with
  | .ok answer => answer
  | .error _ => false

/-- Where a file ends up that is copied to a path: in it, if it is a directory. -/
def landing (files : FileSystem) (source target : Path) : Path :=
  if isEntered files target then target.entry source.name else target

/-- Writes what is copied.  Only a link can call for a directory that is not there. -/
def writeCopy (files : FileSystem) (target : Path) (bytes : List UInt8) (executable : Bool) :
    Except CopyError FileSystem :=
  match files.write target bytes executable with
  | .ok files => .ok files
  | .error cause =>
    let isThere := match files.exists? target with
      | .ok answer => answer
      | .error _ => false
    if cause.cause = .isDirectory ∧ isThere = false then .error (.noDirectory target)
    else .error (.file cause)

/-- Copies the bytes of a file. -/
def copyBytes (files : FileSystem) (source target : Path) (executable : Bool) :
    Except CopyError FileSystem := do
  let bytes ← (files.read source).mapError .file
  writeCopy files target bytes executable

/-- Copies a file to a path. -/
def copyFile (files : FileSystem) (source target : Path) (executable entry : Bool) :
    Except Error FileSystem := do
  if files.leadToSame source target then throw (.sameFile source target entry)
  (copyBytes files source target executable).mapError .copy

def launcher (files : FileSystem) (settings : Settings) : Except Error Path :=
  match findProgram? files settings launcherName with
  | some path => .ok path
  | none => .error (.launch .launcherAbsent)

/-- Copies the files of one directory into another; those that cannot be copied do
not keep the others from being copied. -/
def copyEach (files : FileSystem) (source target : Path) :
    List (String × Node) → FileSystem × List FailedCopy
  | [] => (files, [])
  | (name, _) :: rest =>
    let source' := source.entry name
    let target' := target.entry name
    match copyBytes files source' (landing files source' target') false with
    | .ok files => copyEach files source target rest
    | .error cause =>
      let (files, failures) := copyEach files source target rest
      (files, ⟨source', target', cause⟩ :: failures)

/-- Copies the files of one directory into another, which is made if it is not there. -/
def copyDirectory (files : FileSystem) (source target : Path) : Except Error FileSystem := do
  let files ← match files.makeDirectory target with
    | .ok files => pure files
    | .error cause => if isEntered files target then pure files else throw (.file ⟨cause, target.text⟩)
  let entries := match files.find source true with
    | .ok ⟨_, .dir entries⟩ => entries
    | _ => []
  match copyEach files source target entries with
  | (files, []) => return files
  | (_, failures) => throw (.copies failures)

/-- Puts the helper for a platform among the tools of an installation.  The answer is
where it is now. -/
def deploy (files : FileSystem) (settings : Settings) (own : HelperFiles) (install : Install)
    (platform : Platform) : Except Error (Path × FileSystem) := do
  let mode ← (Launch.mode platform).mapError .launch
  let directory := install.tools.entry Launch.helperDirectory
  if FileSystem.hasNul directory then throw .nulInPath
  let files ← (files.ensureDirectory directory.root directory.parts).mapError .file
  let target := directory.entry ((Launch.helperName? platform).getD "")
  match mode with
  | .direct =>
    let source ← launcher files settings
    return (target, ← copyFile files source (landing files source target) true (isEntered files target))
  | .interpreter =>
    let files ← copyFile files own.script target false false
    return (target, ← copyDirectory files own.shims (directory.entry own.shims.name))

end PluginBuild.Deploy
