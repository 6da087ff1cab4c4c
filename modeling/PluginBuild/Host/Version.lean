/-
# Host.Version -- versions of the host

A version is written as pieces between the characters `.`, `b`, `f` and `p`.  Its
first four pieces are numbers, and missing ones are zero.  Release lines, of two
numbers, are compared with a version by those two alone: a version belongs to its
own line and to every earlier one.
-/
import PluginBuild.Number.Integer
import PluginBuild.Text.Quoted
import PluginBuild.Text.Split

namespace PluginBuild

set_option autoImplicit false

open PluginBuild.Text

structure Version where
  major : Int
  minor : Int
  patch : Int
  build : Int
deriving DecidableEq, Repr

structure ReleaseLine where
  major : Int
  minor : Int
deriving DecidableEq, Repr

namespace Version

/-- A text that is no version. -/
structure Unrecognised where
  text : String
deriving DecidableEq, Repr

/-- The message of an unrecognised version. -/
def Unrecognised.message (e : Unrecognised) : String :=
  "Unrecognised host version: " ++ quoted e.text

/-- Whether `c` separates the pieces of a version. -/
def isDelimiter (c : Char) : Bool := c == '.' || c == 'b' || c == 'f' || c == 'p'

/-- The pieces of a written version. -/
def pieces (s : String) : List String := splitAt isDelimiter s

/-- The version that a text writes. -/
def parse (s : String) : Except Unrecognised Version :=
  match ((pieces s ++ List.replicate 4 "0").take 4).mapM Number.Integer.parse? with
  | some [major, minor, patch, build] => .ok ⟨major, minor, patch, build⟩
  | _ => .error ⟨s⟩

/-- The numbers of a version in order. -/
def toList (v : Version) : List Int := [v.major, v.minor, v.patch, v.build]

/-- Whether a version belongs to a release line or to a later one. -/
def reaches (v : Version) (line : ReleaseLine) : Bool :=
  decide (line.major < v.major) || (decide (line.major = v.major) && decide (line.minor ≤ v.minor))

end Version

end PluginBuild
