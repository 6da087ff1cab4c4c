/-
# Source.Unit -- a source file that has been parsed

A unit keeps the options it was parsed with, so later changes of the session do not
reach it.  It has a tree exactly when parsing succeeded.
-/
import PluginBuild.Diagnostic
import PluginBuild.Source.FrontEnd
import PluginBuild.SymbolSet

namespace PluginBuild

set_option autoImplicit false

/-- The options that apply to a source when it is parsed. -/
structure ParseOptions where
  languageVersion : Option LanguageVersion
  symbols : SymbolSet
deriving DecidableEq

structure SourceUnit where
  path : String
  moduleName : String
  options : ParseOptions
  tree : Option Tree
  diagnostics : List Diagnostic
deriving DecidableEq

/-- The symbols that a unit was parsed with. -/
def SourceUnit.symbols (u : SourceUnit) : SymbolSet := u.options.symbols

end PluginBuild
