/-
# Host.Platform -- the platforms a host runs on
-/
namespace PluginBuild

set_option autoImplicit false

inductive Platform where
  | windows
  | linux
  | osx
  | unknown
deriving DecidableEq, Repr

namespace Platform

def all : List Platform := [windows, linux, osx, unknown]

def name : Platform → String
  | windows => "windows"
  | linux => "linux"
  | osx => "osx"
  | unknown => "unknown"

def ofName? (s : String) : Option Platform := all.find? fun p => p.name == s

/-- The platform that an operating system, given by its identifier, is. -/
def ofSystem (system : String) : Platform :=
  if "win".isPrefixOf system then windows
  else if "linux".isPrefixOf system then linux
  else if system = "darwin" then osx
  else unknown

theorem ofName?_name (p : Platform) : ofName? p.name = some p := by cases p <;> decide

end Platform

end PluginBuild
