/-
# Source.Read -- the text of a source file

A source is a file in UTF-8, with or without a byte order mark; its line ends are
read as line feeds.
-/
import PluginBuild.File.Tree
import PluginBuild.Text.Line
import PluginBuild.Text.Utf8

namespace PluginBuild.Source

set_option autoImplicit false

open PluginBuild.Text

def mark : List UInt8 := [0xEF, 0xBB, 0xBF]

/-- Bytes without a byte order mark in front.  A file that ends within the mark is
empty. -/
def unmarked (bytes : List UInt8) : List UInt8 :=
  if bytes.isPrefixOf mark then []
  else if mark.isPrefixOf bytes then bytes.drop mark.length
  else bytes

/-- Why a source could not be read. -/
inductive ReadError where
  | file (cause : File.Error)
  | text (cause : Utf8.Error)
deriving DecidableEq, Repr

def ReadError.message : ReadError → String
  | file cause => cause.message
  | text cause => cause.message

/-- The text that the bytes of a source are. -/
def decode (bytes : List UInt8) : Except Utf8.Error String :=
  (Utf8.decode (unmarked bytes)).map fun s => String.ofList (normalizeNewlines s)

/-- The text of the source that a path leads to. -/
def read (files : FileSystem) (path : Path) : Except ReadError String :=
  match files.read path with
  | .error e => .error (.file e)
  | .ok bytes => (decode bytes).mapError .text

end PluginBuild.Source
