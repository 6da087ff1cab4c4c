/-
# File.Path -- paths in normal form

A path is its root and its parts.  Repeated separators and parts `.` mean nothing
and are dropped when a path is read; `..` is kept, since its meaning depends on
links.  Exactly two separators at the start are a root of their own.  Paths are
compared part by part.
-/
import PluginBuild.Text.Split

namespace PluginBuild

set_option autoImplicit false

open PluginBuild.Text

inductive Path.Root where
  | none
  | single
  | double
deriving DecidableEq, Repr

structure Path where
  root : Path.Root
  parts : List String
deriving DecidableEq, Repr

namespace Path

/-- A root as it is written. -/
def Root.text : Root → String
  | none => ""
  | single => "/"
  | double => "//"

/-- The root that a text starts with. -/
def Root.ofText (s : List Char) : Root :=
  match (s.takeWhile (· == '/')).length with
  | 0 => none
  | 2 => double
  | _ => single

/-- The path that a text writes. -/
def ofString (s : String) : Path where
  root := .ofText s.toList
  parts := (splitAt (· == '/') s).filter fun part => part != "" && part != "."

/-- A path as it is written. -/
def text (p : Path) : String :=
  if p.root = .none ∧ p.parts = [] then "." else p.root.text ++ "/".intercalate p.parts

/-- Whether a path starts at the root. -/
def isAbsolute (p : Path) : Bool := p.root != .none

/-- The path of `q` as seen from `p`. -/
def join (p q : Path) : Path := if q.isAbsolute then q else ⟨p.root, p.parts ++ q.parts⟩

/-- The path of an entry of `p`. -/
def entry (p : Path) (name : String) : Path := ⟨p.root, p.parts ++ [name]⟩

/-- The path of the directory that holds `p`. -/
def parent (p : Path) : Path := ⟨p.root, p.parts.dropLast⟩

/-- The last part of a path, or nothing. -/
def name (p : Path) : String := p.parts.getLastD ""

/-- The last part of a path without its suffix; a part that starts or ends with its
only point has none. -/
def stem (p : Path) : String :=
  let reversed := p.name.toList.reverse
  let suffix := reversed.takeWhile (· != '.')
  match reversed.drop suffix.length with
  | '.' :: front => if suffix = [] ∨ front = [] then p.name else String.ofList front.reverse
  | _ => p.name

/-- What paths are compared by: the root, if there is one, and the parts. -/
def components (p : Path) : List String :=
  if p.isAbsolute then p.root.text :: p.parts else p.parts

/-- Whether one list of parts comes before another or is the same. -/
def partsLe : List String → List String → Bool
  | [], _ => true
  | _ :: _, [] => false
  | a :: as, b :: bs => if a = b then partsLe as bs else decide (a < b)

/-- Whether one path comes before another or is the same. -/
def le (p q : Path) : Bool := partsLe p.components q.components

end Path

end PluginBuild
