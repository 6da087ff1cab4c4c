/-
# Host.Discovery -- the sources and references of an application

Sources are searched for in the modifications and then in the plugins, references in
the core libraries, the plugins, the modifications and the managed libraries.  A
directory that is missing is skipped.
-/
import PluginBuild.Act
import PluginBuild.File.Find
import PluginBuild.Host.Layout

namespace PluginBuild.Discovery

set_option autoImplicit false

def logger : String := "scriptloader.host.discovery"

def sources : Pattern := .suffix ".py"

def references : Pattern := .suffix ".pyz"

/-- The files below a directory whose names match a pattern; none where there is no
directory. -/
def search (follows : Bool) (files : FileSystem) (pattern : Pattern) (directory : Path) :
    Act Unit File.Error (List Path) := do
  if ← Act.ofExcept (files.isDirectory directory) then
    Act.ofExcept (files.filesBelow follows directory pattern)
  else
    Act.log .debug logger ("Skipping missing directory " ++ directory.text)
    return []

/-- The search of a runtime that follows links. -/
def findFiles (files : FileSystem) (pattern : Pattern) (directory : Path) :
    Act Unit File.Error (List Path) :=
  search true files pattern directory

def sourceRoots (install : Install) (app : App) : List Path := [app.mods, install.plugins]

def referenceRoots (install : Install) (app : App) : List Path :=
  [install.core, install.plugins, app.mods, app.managed]

/-- What is found in one directory after the other. -/
def findIn (files : FileSystem) (pattern : Pattern) : List Path → Act Unit File.Error (List Path)
  | [] => return []
  | root :: rest => do return (← findFiles files pattern root) ++ (← findIn files pattern rest)

def findSources (files : FileSystem) (install : Install) (app : App) :
    Act Unit File.Error (List Path) :=
  findIn files sources (sourceRoots install app)

def findReferences (files : FileSystem) (install : Install) (app : App) :
    Act Unit File.Error (List Path) :=
  findIn files references (referenceRoots install app)

end PluginBuild.Discovery
