/-
# Proofs.Library.Image -- a library is read back from its bytes

A decoder inverts the way a value is written if it gives the value back and leaves whatever
stands behind it (`Decoder.Inverts`).  Naturals and texts are inverted, and so is everything
that is put together from them, by the decoder that is put together in the same way.  A payload
is then read back as it was written (`decode?_encode`), so the format is one of the codecs that
libraries may be written with (`Codec`).
-/
import PluginBuild.Library.Image
import PluginBuild.Proofs.Text.Utf8

namespace PluginBuild.Payload

set_option autoImplicit false

open PluginBuild.Text

variable {α β : Type}

/-- Whether a decoder gives back what is written, and leaves what stands behind it. -/
def Decoder.Inverts (d : Decoder α) (write : α → List UInt8) : Prop :=
  ∀ a rest, d (write a ++ rest) = some (a, rest)

namespace Decoder

/-- What a decoder comes to behind another that succeeds. -/
theorem bind_of_some {d : Decoder α} {bytes rest : List UInt8} {a : α}
    (h : d bytes = some (a, rest)) (f : α → Decoder β) : (d >>= f) bytes = f a rest := by
  show (d bytes).bind (fun (a, rest) => f a rest) = f a rest
  rw [h]
  rfl

end Decoder

/-! ## Naturals and texts -/

theorem inverts_nat : nat.Inverts natBytes := by
  intro n rest
  show natFrom (natBytes n ++ rest) = some (n, rest)
  fun_induction natBytes n with
  | case1 n small =>
      have byte := UInt8.toNat_ofNat_of_lt' (show n < 256 by omega)
      rw [List.singleton_append, natFrom, byte, if_pos small]
  | case2 n large ih =>
      have byte := UInt8.toNat_ofNat_of_lt' (show 128 + n % 128 < 256 by omega)
      have whole : 128 + n % 128 - 128 + 128 * (n / 128) = n := by omega
      rw [List.cons_append, natFrom, byte, if_neg (by omega), ih]
      exact congrArg (fun n => some (n, rest)) whole

theorem inverts_text : text.Inverts textBytes := by
  intro s rest
  have size := inverts_nat (Utf8.encode s.toList).length (Utf8.encode s.toList ++ rest)
  have enough : ¬ (Utf8.encode s.toList ++ rest).length < (Utf8.encode s.toList).length := by
    rw [List.length_append]
    omega
  have read : Utf8.decode (Utf8.encode s.toList) = .ok s.toList := Utf8.decode_eq_ok_iff.2 rfl
  rw [textBytes, List.append_assoc, text, Decoder.bind_of_some size,
    Decoder.bind_of_some rfl, if_neg enough, List.take_left, List.drop_left]
  simp only [read]
  exact congrArg (fun s => some (s, rest)) String.ofList_toList

/-! ## Several values -/

theorem Decoder.Inverts.items {item : Decoder α} {write : α → List UInt8}
    (h : item.Inverts write) (l : List α) (rest : List UInt8) :
    items item l.length (l.flatMap write ++ rest) = some (l, rest) := by
  induction l with
  | nil => rfl
  | cons a l ih =>
      rw [List.flatMap_cons, List.append_assoc, List.length_cons, Payload.items,
        bind_of_some (h a _), bind_of_some ih]
      rfl

theorem Decoder.Inverts.list {item : Decoder α} {write : α → List UInt8}
    (h : item.Inverts write) : (list item).Inverts (listBytes write) := by
  intro l rest
  rw [listBytes, List.append_assoc, Payload.list, bind_of_some (inverts_nat _ _)]
  exact h.items l rest

theorem Decoder.Inverts.option {item : Decoder α} {write : α → List UInt8}
    (h : item.Inverts write) : (option item).Inverts (optionBytes write) := by
  intro o rest
  rw [optionBytes, Payload.option, map_eq_pure_bind, bind_of_some (h.list _ _)]
  cases o <;> rfl

/-! ## Modules and libraries -/

theorem inverts_module : module_.Inverts moduleBytes := by
  intro m rest
  simp only [moduleBytes, List.append_assoc]
  rw [module_, Decoder.bind_of_some (inverts_text _ _), Decoder.bind_of_some (inverts_text _ _),
    Decoder.bind_of_some (inverts_text.list _ _), Decoder.bind_of_some (inverts_text.option _ _)]
  rfl

theorem inverts_image : image.Inverts fun i => optionBytes textBytes i.name ++
    listBytes moduleBytes i.modules ++ listBytes textBytes i.references ++
      optionBytes textBytes i.tag := by
  intro i rest
  simp only [List.append_assoc]
  rw [image, Decoder.bind_of_some (inverts_text.option _ _),
    Decoder.bind_of_some (inverts_module.list _ _), Decoder.bind_of_some (inverts_text.list _ _),
    Decoder.bind_of_some (inverts_text.option _ _)]
  rfl

/-- A payload is read back as it was written. -/
theorem decode?_encode (p : Payload) : decode? p.encode = some p := by
  cases p with
  | foreign kind =>
      have read := inverts_text kind []
      rw [List.append_nil] at read
      rw [encode, decode?, read]
      rfl
  | library i =>
      have read := inverts_image i []
      rw [List.append_nil] at read
      rw [encode, decode?, read]
      rfl

end PluginBuild.Payload

namespace PluginBuild

/-- A way to write payloads as bytes that reads back whatever it wrote. -/
structure Codec where
  encode : Payload → List UInt8
  decode? : List UInt8 → Option Payload
  decode?_encode (p : Payload) : decode? (encode p) = some p

def Codec.compact : Codec := ⟨Payload.encode, Payload.decode?, Payload.decode?_encode⟩

end PluginBuild
