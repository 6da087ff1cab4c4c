/-
# File.Change -- making directories and links and writing files

All leave everything else in the file system as it is.  A directory or a link is made
only where there is nothing; a file is written through links, and made where the last
of them leads.
-/
import PluginBuild.File.Tree

namespace PluginBuild.FileSystem

set_option autoImplicit false

open PluginBuild.Text PluginBuild.File

/-- The file system with a node put at a place. -/
def put (fs : FileSystem) (names : List String) (node : Node) : FileSystem :=
  { fs with root := fs.root.putAt names node }

/-- Where something new is put that has a path. -/
def freePlace (fs : FileSystem) (p : Path) : Except Cause (List String) :=
  match p.parts.getLast? with
  | none => .error .exists
  | some name =>
    if maxPath < p.text.utf8ByteSize then .error .nameTooLong
    else
      match fs.find p.parent true with
      | .error cause => .error cause
      | .ok ⟨names, .dir entries⟩ =>
        if name = ".." then .error .exists
        else if maxName < name.utf8ByteSize then .error .nameTooLong
        else if (entries.lookup name).isSome then .error .exists
        else .ok (names ++ [name])
      | .ok _ => .error .notDirectory

/-- Makes a directory in one that is there. -/
def makeDirectory (fs : FileSystem) (p : Path) : Except Cause FileSystem :=
  (fs.freePlace p).map fun names => fs.put names (.dir [])

/-- The file system, if a path leads to a directory in it.  It may be that this cannot be
told. -/
def ifDirectory (fs : FileSystem) (p : Path) (otherwise : Cause) : Except Error FileSystem := do
  if ← fs.isDirectory p then return fs else throw ⟨otherwise, p.text⟩

/-- Makes a directory and all that are missing above it.  It does not matter if it is
there already. -/
def ensureDirectory (fs : FileSystem) (root : Path.Root) (parts : List String) :
    Except Error FileSystem :=
  let p : Path := ⟨root, parts⟩
  match fs.makeDirectory p with
  | .ok fs => .ok fs
  | .error .absent =>
    if _ : parts = [] then .error ⟨.absent, p.text⟩
    else do
      let fs ← fs.ensureDirectory root parts.dropLast
      match fs.makeDirectory p with
      | .ok fs => .ok fs
      | .error cause => fs.ifDirectory p cause
  | .error cause => fs.ifDirectory p cause
termination_by parts.length
decreasing_by
  have := List.length_pos_iff.2 (by assumption : parts ≠ [])
  simp only [List.length_dropLast]
  omega

/-- Where a file lies that is written at some names seen from a place.  Names that end
with a separator are those of a directory. -/
def writtenPlace (root : Node) (links : Nat) (start : Place) (parts : List String) (closed : Bool) :
    Except Cause (List String) :=
  match walk root true links start parts.dropLast with
  | .error cause => .error cause
  | .ok ⟨names, .dir entries⟩ =>
    let name := parts.getLastD ""
    if closed || ["", ".", ".."].contains name then .error .isDirectory
    else if maxName < name.utf8ByteSize then .error .nameTooLong
    else
      match entries.lookup name with
      | some (.dir _) => .error .isDirectory
      | some (.link target) =>
        match links with
        | 0 => .error .tooManyLinks
        | links + 1 =>
          let start := if target.toList.head? = some '/' then ⟨[], root⟩ else ⟨names, .dir entries⟩
          writtenPlace root links start ((splitAt (· == '/') target).filter (· != ""))
            (target.toList.getLast? == some '/')
      | _ => .ok (names ++ [name])
  | .ok _ => .error .notDirectory

def write (fs : FileSystem) (p : Path) (bytes : List UInt8) (executable : Bool) :
    Except Error FileSystem :=
  let start : Place := if p.isAbsolute then ⟨[], fs.root⟩ else ⟨fs.current, reach fs.root fs.current⟩
  let place := if maxPath < p.text.utf8ByteSize then .error .nameTooLong
    else writtenPlace fs.root maxLinks start p.parts false
  match place with
  | .ok names => .ok (fs.put names (.file bytes executable))
  | .error cause => .error ⟨cause, p.text⟩

def makeLink (fs : FileSystem) (p : Path) (target : String) : Except Error FileSystem :=
  let place := if target = "" then .error .absent
    else if maxPath < target.utf8ByteSize then .error .nameTooLong
    else fs.freePlace p
  match place with
  | .ok names => .ok (fs.put names (.link target))
  | .error cause => .error ⟨cause, p.text⟩

/-- The file system with a node put at a path, and with all directories that are
missing above it.  A file is written through links. -/
def add (fs : FileSystem) (p : Path) (node : Node) : Except Error FileSystem := do
  match node with
  | .dir _ => fs.ensureDirectory p.root p.parts
  | .file bytes executable =>
    (← fs.ensureDirectory p.root p.parts.dropLast).write p bytes executable
  | .link target => (← fs.ensureDirectory p.root p.parts.dropLast).makeLink p target

/-- Whether two paths lead to the same place. -/
def leadToSame (fs : FileSystem) (p q : Path) : Bool :=
  match fs.find p true, fs.find q true with
  | .ok a, .ok b => a.names == b.names
  | _, _ => false

end PluginBuild.FileSystem
