/-
# File.Find -- all files below a directory

A search looks at every entry that real directories lead to, so links to
directories are not entered, although the start may be one.  Found are the files,
and the links to files, whose names match a pattern, in the order of their parts.
Every directory on the way is read, whatever it is called.  Whether a link has to be
asked where it leads before it is passed over differs (`follows`): some releases of the
runtime ask every link, others see from the entry itself that it is no directory.  A
path that must not be asked ends the search.  Permissions are left out: whatever is
there can be read.
-/
import PluginBuild.File.Tree

namespace PluginBuild

set_option autoImplicit false

open PluginBuild.File

inductive Pattern where
  | any
  | suffix (text : String)
deriving DecidableEq, Repr

/-- Whether a name matches a pattern. -/
def Pattern.matches : Pattern → String → Bool
  | any, _ => true
  | suffix text, name => text.toList.isSuffixOf name.toList

mutual

/-- The names that lead from a directory to each entry below it. -/
def Node.descendants : Node → List (List String)
  | .dir entries => descendantsOf entries
  | .file _ _ => []
  | .link _ => []

/-- The names that lead to some entries and to all below them. -/
def descendantsOf : List (String × Node) → List (List String)
  | [] => []
  | (name, node) :: rest => [name] :: node.descendants.map (name :: ·) ++ descendantsOf rest

end

namespace FileSystem

/-- The node that a path leads to, where it leads somewhere. -/
def nodeAt (fs : FileSystem) (p : Path) : Node :=
  match fs.find p true with
  | .ok place => place.node
  | .error _ => .dir []

/-- An entry as it is called on the way: one of the current directory is called with
it. -/
def metAs (p : Path) (name : String) : String :=
  if p.text = "." then "./" ++ name else (p.entry name).text

/-- Asks an entry that is a link whether it leads to a directory, where links are followed. -/
def askLink (fs : FileSystem) (follows : Bool) (p : Path) (name : String) :
    Node → Except Error Unit
  | .link _ =>
    if follows then
      match fs.isDirectory (p.entry name) with
      | .ok _ => .ok ()
      | .error e => .error ⟨e.cause, metAs p name⟩
    else .ok ()
  | _ => .ok ()

/-- The entries whose names match a pattern and that lead to files. -/
def filesAmong (fs : FileSystem) (pattern : Pattern) (p : Path) (entries : List (String × Node)) :
    Except Error (List Path) :=
  ((entries.filter fun e => pattern.matches e.1).map fun e => p.entry e.1).filterM fs.isFile

mutual

/-- The files at a node with a path: for a directory, which has to be one that can be read,
those in it and then those below its entries. -/
def filesFrom (fs : FileSystem) (follows : Bool) (pattern : Pattern) (p : Path) :
    Node → Except Error (List Path)
  | .dir entries => do
    let _ ← fs.status p
    let here ← fs.filesAmong pattern p entries
    return here ++ (← filesFromAll fs follows pattern p entries)
  | .file _ _ => return []
  | .link _ => return []

/-- The files below some entries of a directory. -/
def filesFromAll (fs : FileSystem) (follows : Bool) (pattern : Pattern) (p : Path) :
    List (String × Node) → Except Error (List Path)
  | [] => return []
  | (name, node) :: rest => do
    fs.askLink follows p name node
    let below ← filesFrom fs follows pattern (p.entry name) node
    return below ++ (← filesFromAll fs follows pattern p rest)

end

/-- The files below a directory whose names match a pattern. -/
def filesBelow (fs : FileSystem) (follows : Bool) (directory : Path) (pattern : Pattern) :
    Except Error (List Path) := do
  let files ← fs.filesFrom follows pattern directory (fs.nodeAt directory)
  return (files.map fs.absolute).mergeSort Path.le

/-- The names that lead from a directory to each entry below it that is no directory. -/
def contents (fs : FileSystem) (directory : Path) : List (List String) :=
  (fs.nodeAt directory).descendants.filter fun names =>
    (fs.isDirectory ⟨directory.root, directory.parts ++ names⟩).toOption != some true

end FileSystem

end PluginBuild
