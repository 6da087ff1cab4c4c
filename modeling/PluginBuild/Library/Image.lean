/-
# Library.Image -- a compiled library and its bytes

An image holds the compiled modules of a library, the archives it refers to and the
tag of the interpreter that compiled it.  A payload may also be something that is no
library, of which only the kind is kept.  How payloads become bytes is for others to
say; the format here serves where bytes have to be shown, with naturals in groups of
seven bits, and texts and lists after their lengths.
-/
import PluginBuild.Library.Name
import PluginBuild.Source.FrontEnd
import PluginBuild.Text.Utf8

namespace PluginBuild

set_option autoImplicit false

open PluginBuild.Text

structure Module where
  name : String
  path : String
  body : Body
deriving DecidableEq, Repr

structure Image where
  name : LibraryName
  modules : List Module
  references : List String
  tag : Option String
deriving DecidableEq, Repr

inductive Payload where
  | library (image : Image)
  /-- a value of another kind -/
  | foreign (kind : String)
deriving DecidableEq, Repr

namespace Payload

/-! ## Writing -/

def natBytes (n : Nat) : List UInt8 :=
  if n < 128 then [.ofNat n] else .ofNat (128 + n % 128) :: natBytes (n / 128)

def textBytes (s : String) : List UInt8 :=
  let bytes := Utf8.encode s.toList
  natBytes bytes.length ++ bytes

def listBytes {α : Type} (item : α → List UInt8) (l : List α) : List UInt8 :=
  natBytes l.length ++ l.flatMap item

/-- The bytes of something that may be missing. -/
def optionBytes {α : Type} (item : α → List UInt8) (o : Option α) : List UInt8 :=
  listBytes item o.toList

def moduleBytes (m : Module) : List UInt8 :=
  textBytes m.name ++ textBytes m.path ++ listBytes textBytes m.body.imports
    ++ optionBytes textBytes m.body.failure

def encode : Payload → List UInt8
  | library i =>
    0 :: (optionBytes textBytes i.name ++ listBytes moduleBytes i.modules ++ listBytes textBytes i.references
      ++ optionBytes textBytes i.tag)
  | foreign kind => 1 :: textBytes kind

/-! ## Reading -/

/-- Reads from the front of some bytes. -/
abbrev Decoder := StateT (List UInt8) Option

def natFrom : List UInt8 → Option (Nat × List UInt8)
  | [] => none
  | b :: rest =>
    if b.toNat < 128 then some (b.toNat, rest)
    else (natFrom rest).map fun (n, rest) => (b.toNat - 128 + 128 * n, rest)

def nat : Decoder Nat := natFrom

def text : Decoder String := do
  let size ← nat
  let bytes ← get
  if bytes.length < size then failure
  set (bytes.drop size)
  match Utf8.decode (bytes.take size) with
  | .ok s => return String.ofList s
  | .error _ => failure

/-- Reads `count` items. -/
def items {α : Type} (item : Decoder α) : Nat → Decoder (List α)
  | 0 => return []
  | count + 1 => do
    let a ← item
    return a :: (← items item count)

def list {α : Type} (item : Decoder α) : Decoder (List α) := do items item (← nat)

/-- Reads something that may be missing. -/
def option {α : Type} (item : Decoder α) : Decoder (Option α) := List.head? <$> list item

def module_ : Decoder Module := do
  let name ← text
  let path ← text
  let imports ← list text
  let failure ← option text
  return ⟨name, path, ⟨imports, failure⟩⟩

def image : Decoder Image := do
  let name ← option text
  let modules ← list module_
  let references ← list text
  let tag ← option text
  return ⟨name, modules, references, tag⟩

/-- The payload that some bytes are. -/
def decode? : List UInt8 → Option Payload
  | 0 :: rest => (image rest).map fun (i, _) => library i
  | 1 :: rest => (text rest).map fun (kind, _) => foreign kind
  | _ => none

end Payload

end PluginBuild
