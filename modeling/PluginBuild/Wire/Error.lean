/-
# Wire.Error -- what can go wrong on a pipe

A reader fails because the stream ends or because the bytes on it are no value; a
writer fails because a value does not fit the format or the pipe is closed.
`ReadError.isEndOfInput` singles out the one clean end: no byte of the value was
there.
-/
import PluginBuild.Text.Utf8

namespace PluginBuild.Wire

set_option autoImplicit false

open PluginBuild.Text

inductive Item where
  | int32
  | boolean
  | stringPayload
  | blobPayload
deriving DecidableEq, Repr

def Item.name : Item → String
  | .int32 => "int32"
  | .boolean => "boolean"
  | .stringPayload => "string payload"
  | .blobPayload => "blob payload"

/-- The two kinds of length-prefixed values. -/
inductive Sized where
  | string
  | blob
deriving DecidableEq, Repr

/-- A kind of value in words. -/
def Sized.name : Sized → String
  | .string => "string"
  | .blob => "blob"

/-- What follows the length of such a value. -/
def Sized.payload : Sized → Item
  | .string => .stringPayload
  | .blob => .blobPayload

/-- Why a value could not be read. -/
inductive ReadError where
  /-- the stream ended before the first byte -/
  | closed (item : Item)
  /-- the stream ended after some of the bytes -/
  | truncated (item : Item) (expected got : Nat)
  /-- the stream ended right after a length -/
  | absentPayload (kind : Sized)
  | negativeLength (kind : Sized) (length : Int)
  | invalidText (cause : Utf8.Error)
  | unknownAction (code : Int)
  | negativeCount (count : Int)
  /-- the stream ended, before the first byte of this item, where a result is owed -/
  | absentResult (item : Item)
deriving DecidableEq, Repr

namespace ReadError

/-- Whether the stream ended before the first byte of a value. -/
def isEndOfInput : ReadError → Bool
  | closed _ => true
  | _ => false

/-- Whether the bytes were too few, so that more of them could have made a value. -/
def isShort : ReadError → Bool
  | closed _ | truncated _ _ _ | absentPayload _ | absentResult _ => true
  | negativeLength _ _ | invalidText _ | unknownAction _ | negativeCount _ => false

/-- The end of the stream before an item. -/
def endBefore (item : Item) : String := "Peer closed the connection before " ++ item.name

def message : ReadError → String
  | closed item => endBefore item
  | truncated item expected got =>
    "Truncated " ++ item.name ++ ": expected " ++ toString expected ++ " bytes, got " ++ toString got
  | absentPayload kind => endBefore kind.payload
  | negativeLength kind length => "Negative " ++ kind.name ++ " length: " ++ toString length
  | invalidText cause => "String payload is not valid UTF-8: " ++ cause.message
  | unknownAction code => "Unknown action code: " ++ toString code
  | negativeCount count => "Negative diagnostic count: " ++ toString count
  | absentResult item => "Helper closed the stream before the result: " ++ endBefore item

end ReadError

/-- Why a value could not be written. -/
inductive WriteError where
  /-- a number that four bytes do not hold -/
  | outOfRange (value : Int)
  /-- a payload of the wrong shape for an action: the kinds declared and given -/
  | wrongPayload (action : String) (expected got : List String)
  /-- a write to a pipe that has been closed -/
  | closedPipe
deriving DecidableEq, Repr

/-- The numbers that fit eight bytes. -/
def fitsInt64 (n : Int) : Bool :=
  decide (-9223372036854775808 ≤ n) && decide (n ≤ 9223372036854775807)

/-- The message of an error.  The range is named only for a number of eight bytes. -/
def WriteError.message : WriteError → String
  | .outOfRange value =>
    if fitsInt64 value then "'i' format requires -2147483648 <= number <= 2147483647"
    else "argument out of range"
  | .wrongPayload action expected got =>
    action ++ " expects payload " ++ quotedList expected ++ ", got " ++ quotedList got
  | .closedPipe => "write to closed file"

end PluginBuild.Wire
