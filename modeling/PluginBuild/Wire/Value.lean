/-
# Wire.Value -- the values that travel on a pipe

Both directions use four kinds of values: a number of 32 bits with a sign, least
significant byte first; a truth value in one byte, where every byte but zero is
true; and strings and blobs, the number of their bytes followed by the bytes, a
string in UTF-8.  Every string has bytes: texts with lone surrogates, which cannot be
written in UTF-8, are left out.
-/
import PluginBuild.Wire.Pipe

namespace PluginBuild.Wire

set_option autoImplicit false

open PluginBuild.Text

/-- The numbers that fit four bytes. -/
def fitsInt32 (n : Int) : Bool := decide (-2147483648 ≤ n) && decide (n ≤ 2147483647)

/-- The four bytes of a number, least significant first. -/
def int32Bytes (n : Int) : List UInt8 :=
  let m := (n % 4294967296).toNat
  [.ofNat m, .ofNat (m / 0x100), .ofNat (m / 0x10000), .ofNat (m / 0x1000000)]

/-- The number whose bytes are given, least significant first. -/
def int32OfBytes (bytes : List UInt8) : Int :=
  Int.bmod (bytes.foldr (fun b n => b.toNat + 0x100 * n) 0) 4294967296

/-! ## Writing -/

namespace Writer

def int32 (n : Int) : Writer Unit :=
  if fitsInt32 n then write (int32Bytes n) else throw (.outOfRange n)

def boolean (b : Bool) : Writer Unit := write [if b then 1 else 0]

def blob (data : List UInt8) : Writer Unit := do
  int32 data.length
  write data

def string (s : String) : Writer Unit := blob (Utf8.encode s.toList)

end Writer

/-! ## Reading -/

namespace Reader

/-- Reads exactly `size` bytes of an item. -/
def exactly (size : Nat) (item : Item) : Reader (List UInt8) := do
  let data ← modifyGet fun (p : Pipe) => p.fill size
  if size ≠ 0 ∧ data = [] then throw (.closed item)
  else if data.length < size then throw (.truncated item size data.length)
  else return data

def int32 : Reader Int := int32OfBytes <$> exactly 4 .int32

def boolean : Reader Bool := (fun data => decide (data ≠ [0])) <$> exactly 1 .boolean

/-- Reads the length and the bytes of a string or a blob.  The end of the stream
after the length is no clean end. -/
def sized (kind : Sized) : Reader (List UInt8) := do
  let length ← int32
  if length < 0 then throw (.negativeLength kind length)
  tryCatch (exactly length.toNat kind.payload) fun e =>
    throw (if e.isEndOfInput then .absentPayload kind else e)

def blob : Reader (List UInt8) := sized .blob

def string : Reader String := do
  match Utf8.decode (← sized .string) with
  | .ok s => return String.ofList s
  | .error cause => throw (.invalidText cause)

end Reader

end PluginBuild.Wire
