/-
# Host.Symbols -- what the host defines for scripts

A host defines symbols for its platform, for a debug build, for the pieces of its
version and for every release line that its version has reached.  The symbol of
the small runtime is not among them; it is sent apart.
-/
import PluginBuild.Host.Platform
import PluginBuild.Host.Version

namespace PluginBuild

set_option autoImplicit false

/-- What is known of a host. -/
structure Host where
  version : String
  platform : Platform
  debugBuild : Bool
  /-- the key token of the core runtime, in hexadecimal digits -/
  keyToken : Option String
deriving DecidableEq, Repr

namespace Host

/-- The key token of the small core runtime. -/
def microToken : String := "7cec85d7bea7798e"

/-- Whether the host runs on the small core runtime. -/
def isMicro (h : Host) : Bool := h.keyToken == some microToken

/-- A key token in hexadecimal digits; an empty one counts as missing. -/
def tokenText (token : Option (List UInt8)) : Option String :=
  match token with
  | none | some [] => none
  | some bytes => some (String.ofList (bytes.flatMap fun b => Text.hexDigits 2 b.toNat))

/-- The symbol that every host defines. -/
def baseSymbol : String := "UNITY_STANDALONE"

/-- The symbol of a debug build. -/
def debugSymbol : String := "DEVELOPMENT_BUILD"

/-- The symbol of the small core runtime. -/
def microSymbol : String := "MICRO_MSCORLIB_BUILD"

def platformSymbol : Platform → String
  | .windows => "UNITY_STANDALONE_WIN"
  | .linux => "UNITY_STANDALONE_LINUX"
  | .osx => "UNITY_STANDALONE_OSX"
  | .unknown => "UNITY_STANDALONE_UNKNOWN"

def releaseLines : List ReleaseLine :=
  [(5, [3, 4, 5, 6]), (2017, [1, 2, 3, 4, 5, 6, 7, 8, 9]), (2018, [1, 2, 3, 4, 5, 6, 7, 8, 9]),
    (2019, [1, 2, 3, 4, 5, 6, 7, 8, 9])].flatMap
    fun (major, minors) => minors.map fun minor => ⟨major, minor⟩

/-- The symbols of the first pieces of a written version: of one, of two and of three
of them. -/
def versionSymbols (version : String) : List String :=
  let pieces := Version.pieces version
  (List.range (min pieces.length 3)).map fun n =>
    "UNITY_" ++ "_".intercalate (pieces.take (n + 1))

/-- The symbol of a release line. -/
def lineSymbol (line : ReleaseLine) : String :=
  "UNITY_" ++ toString line.major ++ "_" ++ toString line.minor ++ "_OR_NEWER"

/-- The symbols of the release lines that a version has reached. -/
def reachedSymbols (v : Version) : List String := (releaseLines.filter v.reaches).map lineSymbol

/-- The symbols that a host defines, in the order in which they are sent. -/
def symbols (h : Host) : Except Version.Unrecognised (List String) := do
  let v ← Version.parse h.version
  return [baseSymbol, platformSymbol h.platform] ++ (if h.debugBuild then [debugSymbol] else [])
    ++ versionSymbols h.version ++ reachedSymbols v

end Host

end PluginBuild
