/-
# Host.Layout -- where things lie on disk

An installation holds what all applications share: core libraries, plugins and
tools.  Each application has its own directory of modifications and of managed
libraries.
-/
import PluginBuild.File.Path

namespace PluginBuild

set_option autoImplicit false

structure Install where
  root : Path
deriving DecidableEq, Repr

namespace Install

/-- The directory of the core libraries. -/
def core (i : Install) : Path := i.root.entry "Core"

def plugins (i : Install) : Path := i.root.entry "Plugins"

def tools (i : Install) : Path := i.root.entry "Tools"

end Install

structure App where
  data : Path
deriving DecidableEq, Repr

namespace App

def mods (a : App) : Path := a.data.entry "Mods"

/-- The directory of the managed libraries. -/
def managed (a : App) : Path := a.data.entry "Managed"

end App

end PluginBuild
