/-
# File.Tree -- a file system and how paths lead through it

A file system is a tree of directories, files and symbolic links, and the place
that relative paths start from.  `FileSystem.find` follows a path part by part: a
link is replaced by its target, `..` leaves the directory reached so far, and at
most `maxLinks` links are followed, so every search ends.  Names are texts, so names
that are not UTF-8 are left out, and so are permissions: what is there can be asked
about and read.
-/
import PluginBuild.File.Error
import PluginBuild.File.Path
import PluginBuild.Keyed

namespace PluginBuild

set_option autoImplicit false

open PluginBuild.Text PluginBuild.File

/-- A file, a directory or a link. -/
inductive Node where
  | file (bytes : List UInt8) (executable : Bool)
  | dir (entries : List (String × Node))
  | link (target : String)

namespace Node

/-- The entry of a directory with a name. -/
def entry? (name : String) : Node → Option Node
  | dir entries => entries.lookup name
  | _ => none

/-- The node that names lead to without following links. -/
def at? (node : Node) : List String → Option Node
  | [] => some node
  | name :: rest => (node.entry? name).bind fun n => n.at? rest

/-- The tree with a node put where names lead; names that lead nowhere become
directories. -/
def putAt (tree : Node) (names : List String) (node : Node) : Node :=
  match names with
  | [] => node
  | name :: rest =>
    let entries := match tree with
      | dir entries => entries
      | _ => []
    dir (Keyed.put name (((entries.lookup name).getD (dir [])).putAt rest node) entries)

end Node

structure FileSystem where
  root : Node
  /-- the names that lead from the root to where relative paths start -/
  current : List String

namespace FileSystem

/-- The most links that a search follows. -/
def maxLinks : Nat := 40

/-- The most bytes of a name. -/
def maxName : Nat := 255

/-- The most bytes of a path. -/
def maxPath : Nat := 4095

/-- Where a search has come to: the node and the names that lead to it. -/
structure Place where
  names : List String
  node : Node

/-- The node that names lead to, in a tree where they lead somewhere. -/
def reach (root : Node) (names : List String) : Node := (root.at? names).getD (.dir [])

/-- Follows the pending names from a place.  A link at the very end is followed only
when `last` says so. -/
def walk (root : Node) (last : Bool) (links : Nat) (here : Place) (pending : List String) :
    Except Cause Place :=
  match pending with
  | [] => .ok here
  | name :: rest =>
    match here.node with
    | .dir _ =>
      if name = "" ∨ name = "." then walk root last links here rest
      else if name = ".." then
        let up := here.names.dropLast
        walk root last links ⟨up, reach root up⟩ rest
      else if maxName < name.utf8ByteSize then .error .nameTooLong
      else
        match here.node.entry? name with
        | none => .error .absent
        | some (.link target) =>
          if rest.isEmpty && !last then .ok ⟨here.names ++ [name], .link target⟩
          else
            match links with
            | 0 => .error .tooManyLinks
            | links + 1 =>
              let start := if target.toList.head? = some '/' then ⟨[], root⟩ else here
              walk root last links start (splitAt (· == '/') target ++ rest)
        | some node => walk root last links ⟨here.names ++ [name], node⟩ rest
    | _ => .error .notDirectory
termination_by (links, pending.length)

def find (fs : FileSystem) (p : Path) (last : Bool) : Except Cause Place :=
  if maxPath < p.text.utf8ByteSize then .error .nameTooLong
  else if p.isAbsolute then walk fs.root last maxLinks ⟨[], fs.root⟩ p.parts
  else walk fs.root last maxLinks ⟨fs.current, reach fs.root fs.current⟩ p.parts

def absolute (fs : FileSystem) (p : Path) : Path :=
  if p.isAbsolute then p else ⟨.single, fs.current ++ p.parts⟩

/-- Whether no path can be written so. -/
def hasNul (p : Path) : Bool := p.text.toList.contains '\x00'

/-- The node that a path leads to, if it leads anywhere. -/
def status (fs : FileSystem) (p : Path) : Except Error (Option Node) :=
  if hasNul p then .ok none
  else
    match fs.find p true with
    | .ok place => .ok (some place.node)
    | .error cause => if cause.meansNothing then .ok none else .error ⟨cause, p.text⟩

def exists? (fs : FileSystem) (p : Path) : Except Error Bool := (·.isSome) <$> fs.status p

/-- Whether a path leads to a file. -/
def isFile (fs : FileSystem) (p : Path) : Except Error Bool :=
  (fun node => match node with
    | some (.file _ _) => true
    | _ => false) <$> fs.status p

/-- Whether a path leads to a directory. -/
def isDirectory (fs : FileSystem) (p : Path) : Except Error Bool :=
  (fun node => match node with
    | some (.dir _) => true
    | _ => false) <$> fs.status p

/-- The bytes of the file that a path leads to. -/
def read (fs : FileSystem) (p : Path) : Except Error (List UInt8) :=
  match fs.find p true with
  | .ok ⟨_, .file bytes _⟩ => .ok bytes
  | .ok _ => .error ⟨.isDirectory, p.text⟩
  | .error cause => .error ⟨cause, p.text⟩

end FileSystem

end PluginBuild
