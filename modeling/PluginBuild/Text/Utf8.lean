/-
# Text.Utf8 -- strict UTF-8

`Utf8.encode` writes a text as bytes and `Utf8.decode` reads it back, one byte at
a time: `Sequence` is a character of which some bytes have been read, with the
range that its next byte must lie in.  Overlong forms, surrogates and code points
above U+10FFFF are excluded by that range alone.  A refused input is described by
the bytes of the character that could not be read and where they stand.
-/
import PluginBuild.Text.Quoted

namespace PluginBuild.Text.Utf8

set_option autoImplicit false

def encode (s : List Char) : List UInt8 := s.flatMap String.utf8EncodeChar

inductive Reason where
  /-- no character starts with the byte -/
  | start
  /-- the byte after them cannot follow them -/
  | continuation
  /-- the text ends within the character -/
  | ending
deriving DecidableEq, Repr

def Reason.message : Reason → String
  | .start => "invalid start byte"
  | .continuation => "invalid continuation byte"
  | .ending => "unexpected end of data"

/-- The bytes that are no character: the first of them, its position, and how many
more there are. -/
structure Error where
  first : UInt8
  position : Nat
  more : Nat
  reason : Reason
deriving DecidableEq, Repr

def Error.message (e : Error) : String :=
  let place :=
    if e.more = 0 then
      "byte 0x" ++ String.ofList (hexDigits 2 e.first.toNat) ++ " in position " ++ toString e.position
    else
      "bytes in position " ++ toString e.position ++ "-" ++ toString (e.position + e.more)
  "'utf-8' codec can't decode " ++ place ++ ": " ++ e.reason.message

/-- A character of which some bytes have been read. -/
structure Sequence where
  first : UInt8
  position : Nat
  /-- bytes read after the first -/
  more : Nat
  /-- bytes still owed, less one -/
  owed : Nat
  /-- least and greatest value of the next byte -/
  low : Nat
  high : Nat
  /-- the bits read so far -/
  value : Nat
deriving DecidableEq, Repr

/-- The error of a sequence that cannot go on. -/
def Sequence.fail (s : Sequence) (reason : Reason) : Error := ⟨s.first, s.position, s.more, reason⟩

/-- The sequence that a lead byte at a position starts. -/
def lead? (b : UInt8) (position : Nat) : Option Sequence :=
  let n := b.toNat
  if 0xC2 ≤ n ∧ n ≤ 0xDF then some ⟨b, position, 0, 0, 0x80, 0xBF, n - 0xC0⟩
  else if n = 0xE0 then some ⟨b, position, 0, 1, 0xA0, 0xBF, 0⟩
  else if n = 0xED then some ⟨b, position, 0, 1, 0x80, 0x9F, 0xD⟩
  else if 0xE1 ≤ n ∧ n ≤ 0xEF then some ⟨b, position, 0, 1, 0x80, 0xBF, n - 0xE0⟩
  else if n = 0xF0 then some ⟨b, position, 0, 2, 0x90, 0xBF, 0⟩
  else if n = 0xF4 then some ⟨b, position, 0, 2, 0x80, 0x8F, 4⟩
  else if 0xF1 ≤ n ∧ n ≤ 0xF3 then some ⟨b, position, 0, 2, 0x80, 0xBF, n - 0xF0⟩
  else none

/-- The characters from a position on, where `pending` is the character that the
bytes before it have begun. -/
def decodeFrom : Nat → Option Sequence → List UInt8 → Except Error (List Char)
  | _, none, [] => .ok []
  | _, some s, [] => .error (s.fail .ending)
  | position, none, b :: rest =>
    if b.toNat < 0x80 then (Char.ofNat b.toNat :: ·) <$> decodeFrom (position + 1) none rest
    else
      match lead? b position with
      | some s => decodeFrom (position + 1) (some s) rest
      | none => .error ⟨b, position, 0, .start⟩
  | position, some s, b :: rest =>
    if s.low ≤ b.toNat ∧ b.toNat ≤ s.high then
      let value := s.value * 64 + (b.toNat - 0x80)
      match s.owed with
      | 0 => (Char.ofNat value :: ·) <$> decodeFrom (position + 1) none rest
      | owed + 1 =>
        decodeFrom (position + 1)
          (some { s with more := s.more + 1, owed, low := 0x80, high := 0xBF, value }) rest
    else .error (s.fail .continuation)

/-- The text that some bytes are. -/
def decode (bytes : List UInt8) : Except Error (List Char) := decodeFrom 0 none bytes

end PluginBuild.Text.Utf8
