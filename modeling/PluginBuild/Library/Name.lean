/-
# Library.Name -- what a library is called

A library is called by a text, unless its name was asked for and left empty; then it
has none, and messages show an empty list in its place.
-/
namespace PluginBuild

set_option autoImplicit false

/-- The name of a library, if it has one. -/
abbrev LibraryName := Option String

/-- A name as messages show it. -/
def LibraryName.shown (name : LibraryName) : String := name.getD "[]"

end PluginBuild
