/-
# File.Archive -- telling module archives from other files

A module archive ends with an end record, perhaps followed by a comment.  The
record is looked for at the very end, then for its last signature near the end.
In front of it may stand a locator of a larger record; then that record has to fit
into the file, and the archive must not span several disks.
-/
namespace PluginBuild.Archive

set_option autoImplicit false

/-- What the end of a file shows. -/
inductive Verdict where
  | archive
  | other
  /-- an archive that goes on on another disk -/
  | spanning
deriving DecidableEq, Repr

/-- The signature of the end record. -/
def endSignature : List UInt8 := [0x50, 0x4B, 0x05, 0x06]

def locatorSignature : List UInt8 := [0x50, 0x4B, 0x06, 0x07]

/-- The size of the end record without its comment. -/
def endSize : Nat := 22

def locatorSize : Nat := 20

/-- The size of the larger record. -/
def largeSize : Nat := 56

/-- The most bytes of a comment that the search looks back over. -/
def maxComment : Nat := 65536

/-- The natural whose bytes are given, least significant first. -/
def number (bytes : List UInt8) : Nat := bytes.foldr (fun b n => b.toNat + 0x100 * n) 0

/-- The last position at which a pattern starts, where the bytes start at
`position`. -/
def lastAt (pattern : List UInt8) (position : Nat) : List UInt8 → Option Nat
  | [] => none
  | b :: rest =>
    match lastAt pattern (position + 1) rest with
    | some found => some found
    | none => if pattern.isPrefixOf (b :: rest) then some position else none

/-- Where the end record of a file starts. -/
def endPosition? (bytes : List UInt8) : Option Nat :=
  let size := bytes.length
  if size < endSize then none
  else
    let tail := bytes.drop (size - endSize)
    if endSignature.isPrefixOf tail && tail.drop (endSize - 2) == [0, 0] then some (size - endSize)
    else
      let start := size - maxComment - endSize
      (lastAt endSignature start (bytes.drop start)).bind fun position =>
        if position + endSize ≤ size then some position else none

/-- What a file is, by its end. -/
def check (bytes : List UInt8) : Verdict :=
  match endPosition? bytes with
  | none => .other
  | some position =>
    if position < locatorSize then .archive
    else
      let locator := (bytes.drop (position - locatorSize)).take locatorSize
      if !locatorSignature.isPrefixOf locator then .archive
      else if number ((locator.drop 4).take 4) ≠ 0 ∨ 1 < number ((locator.drop 16).take 4) then
        .spanning
      else if position < locatorSize + largeSize then .other
      else .archive

end PluginBuild.Archive
