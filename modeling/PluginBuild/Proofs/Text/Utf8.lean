/-
# Proofs.Text.Utf8 -- decoding undoes encoding and accepts nothing else

`Utf8.encode` is defined by the bytes of each character, `Utf8.decode` by a machine
that reads one byte at a time.  This module proves that the two fit
(`decode_eq_ok_iff`): bytes decode to a text exactly when they are its encoding.

* `decodeFrom_char`: the machine reads the bytes of one character and is then
  between characters again;
* `exists_char_of_decodeFrom`: whatever it accepts starts with the bytes of a
  character.  Overlong forms and surrogates are out because the second byte has
  to lie in the range that the first one leaves (`lead?_three`, `lead?_four`).
-/
import PluginBuild.Proofs.Except
import PluginBuild.Text.Utf8

namespace PluginBuild.Text.Utf8

set_option autoImplicit false

/-! ## Lead bytes -/

theorem lead?_two {b : UInt8} (position : Nat) (low : 0xC2 ≤ b.toNat) (high : b.toNat ≤ 0xDF) :
    lead? b position = some ⟨b, position, 0, 0, 0x80, 0xBF, b.toNat - 0xC0⟩ := by
  unfold lead?
  simp only
  rw [if_pos ⟨low, high⟩]

/-- A character of three bytes.  After `0xE0` and after `0xED` the second byte has
less room: the rest would be an overlong form or a surrogate. -/
theorem lead?_three {b : UInt8} (position : Nat) (low : 0xE0 ≤ b.toNat) (high : b.toNat ≤ 0xEF) :
    lead? b position = some ⟨b, position, 0, 1, if b.toNat = 0xE0 then 0xA0 else 0x80,
      if b.toNat = 0xED then 0x9F else 0xBF, b.toNat - 0xE0⟩ := by
  unfold lead?
  simp only
  rw [if_neg (by omega)]
  by_cases e0 : b.toNat = 0xE0
  · simp [e0]
  · rw [if_neg e0, if_neg e0]
    by_cases ed : b.toNat = 0xED
    · simp [ed]
    · rw [if_neg ed, if_neg ed, if_pos (by omega)]

/-- A character of four bytes.  After `0xF0` and after `0xF4` the second byte has less
room: the rest would be an overlong form or lie above the last code point. -/
theorem lead?_four {b : UInt8} (position : Nat) (low : 0xF0 ≤ b.toNat) (high : b.toNat ≤ 0xF4) :
    lead? b position = some ⟨b, position, 0, 2, if b.toNat = 0xF0 then 0x90 else 0x80,
      if b.toNat = 0xF4 then 0x8F else 0xBF, b.toNat - 0xF0⟩ := by
  unfold lead?
  simp only
  rw [if_neg (by omega), if_neg (by omega), if_neg (by omega), if_neg (by omega)]
  by_cases f0 : b.toNat = 0xF0
  · simp [f0]
  · rw [if_neg f0, if_neg f0]
    by_cases f4 : b.toNat = 0xF4
    · simp [f4]
    · rw [if_neg f4, if_neg f4, if_pos (by omega)]

theorem lead?_none {b : UInt8} (position : Nat)
    (out : ¬(0xC2 ≤ b.toNat ∧ b.toNat ≤ 0xF4)) : lead? b position = none := by
  unfold lead?
  simp only
  rw [if_neg (by omega), if_neg (by omega), if_neg (by omega), if_neg (by omega),
    if_neg (by omega), if_neg (by omega), if_neg (by omega)]

/-! ## Single bytes -/

theorem decodeFrom_ascii {b : UInt8} (position : Nat) (rest : List UInt8) (h : b.toNat < 0x80) :
    decodeFrom position none (b :: rest)
      = (Char.ofNat b.toNat :: ·) <$> decodeFrom (position + 1) none rest := by
  rw [decodeFrom, if_pos h]

theorem decodeFrom_lead {b : UInt8} {position : Nat} {s : Sequence} (rest : List UInt8)
    (h : ¬b.toNat < 0x80) (lead : lead? b position = some s) :
    decodeFrom position none (b :: rest) = decodeFrom (position + 1) (some s) rest := by
  rw [decodeFrom, if_neg h, lead]

/-- The byte that completes a character. -/
theorem decodeFrom_last {b : UInt8} {s : Sequence} (position : Nat) (rest : List UInt8)
    (owed : s.owed = 0) (h : s.low ≤ b.toNat ∧ b.toNat ≤ s.high) :
    decodeFrom position (some s) (b :: rest)
      = (Char.ofNat (s.value * 64 + (b.toNat - 0x80)) :: ·) <$>
        decodeFrom (position + 1) none rest := by
  rw [decodeFrom, if_pos h, owed]

/-- A byte after which the character owes more. -/
theorem decodeFrom_more {b : UInt8} {s : Sequence} {owed : Nat} (position : Nat)
    (rest : List UInt8) (owes : s.owed = owed + 1) (h : s.low ≤ b.toNat ∧ b.toNat ≤ s.high) :
    decodeFrom position (some s) (b :: rest)
      = decodeFrom (position + 1) (some { s with
          more := s.more + 1, owed, low := 0x80, high := 0xBF
          value := s.value * 64 + (b.toNat - 0x80) }) rest := by
  rw [decodeFrom, if_pos h, owes]

/-- A sequence that is accepted goes on with a byte in its range. -/
theorem exists_byte_of_decodeFrom {position : Nat} {s : Sequence} {bytes : List UInt8}
    {text : List Char} (h : decodeFrom position (some s) bytes = .ok text) :
    ∃ b rest, bytes = b :: rest ∧ s.low ≤ b.toNat ∧ b.toNat ≤ s.high := by
  cases bytes with
  | nil => rw [decodeFrom] at h; cases h
  | cons b rest =>
      by_cases within : s.low ≤ b.toNat ∧ b.toNat ≤ s.high
      · exact ⟨b, rest, rfl, within.1, within.2⟩
      · rw [decodeFrom, if_neg within] at h; cases h

/-! ## Characters -/

theorem toNat_valid (c : Char) : c.toNat < 0xD800 ∨ 0xDFFF < c.toNat ∧ c.toNat < 0x110000 := c.valid

/-- The machine reads the bytes of a character. -/
theorem decodeFrom_char (c : Char) (position : Nat) (rest : List UInt8) :
    decodeFrom position none (String.utf8EncodeChar c ++ rest)
      = (c :: ·) <$> decodeFrom (position + (String.utf8EncodeChar c).length) none rest := by
  have valid := toNat_valid c
  have whole : Char.ofNat c.toNat = c := Char.ofNat_toNat c
  unfold String.utf8EncodeChar
  simp only [Char.toNat_val]
  generalize c.toNat = v at valid whole
  split
  · have b := UInt8.toNat_ofNat_of_lt' (show v < 256 by omega)
    rw [List.singleton_append, decodeFrom_ascii _ _ (by omega), b, whole, List.length_singleton]
  split
  · have b₁ := UInt8.toNat_ofNat_of_lt' (show v / 64 % 0x20 + 0xc0 < 256 by omega)
    have b₂ := UInt8.toNat_ofNat_of_lt' (show v % 0x40 + 0x80 < 256 by omega)
    simp only [List.cons_append, List.nil_append, List.length_cons, List.length_nil]
    rw [decodeFrom_lead _ (by omega) (lead?_two _ (by omega) (by omega)),
      decodeFrom_last _ _ rfl (by simp only; omega), b₁, b₂]
    rw [show (v / 64 % 0x20 + 0xc0 - 0xC0) * 64 + (v % 0x40 + 0x80 - 0x80) = v by omega, whole]
  split
  · have b₁ := UInt8.toNat_ofNat_of_lt' (show v / 4096 % 0x10 + 0xe0 < 256 by omega)
    have b₂ := UInt8.toNat_ofNat_of_lt' (show v / 64 % 0x40 + 0x80 < 256 by omega)
    have b₃ := UInt8.toNat_ofNat_of_lt' (show v % 0x40 + 0x80 < 256 by omega)
    simp only [List.cons_append, List.nil_append, List.length_cons, List.length_nil]
    rw [decodeFrom_lead _ (by omega) (lead?_three _ (by omega) (by omega)),
      decodeFrom_more _ _ rfl (by simp only; rw [b₁, b₂]; split <;> split <;> omega),
      decodeFrom_last _ _ rfl (by simp only; omega), b₁, b₂, b₃]
    rw [show ((v / 4096 % 0x10 + 0xe0 - 0xE0) * 64 + (v / 64 % 0x40 + 0x80 - 0x80)) * 64
      + (v % 0x40 + 0x80 - 0x80) = v by omega, whole]
  · have b₁ := UInt8.toNat_ofNat_of_lt' (show v / 262144 % 0x08 + 0xf0 < 256 by omega)
    have b₂ := UInt8.toNat_ofNat_of_lt' (show v / 4096 % 0x40 + 0x80 < 256 by omega)
    have b₃ := UInt8.toNat_ofNat_of_lt' (show v / 64 % 0x40 + 0x80 < 256 by omega)
    have b₄ := UInt8.toNat_ofNat_of_lt' (show v % 0x40 + 0x80 < 256 by omega)
    simp only [List.cons_append, List.nil_append, List.length_cons, List.length_nil]
    rw [decodeFrom_lead _ (by omega) (lead?_four _ (by omega) (by omega)),
      decodeFrom_more _ _ rfl (by simp only; rw [b₁, b₂]; split <;> split <;> omega),
      decodeFrom_more _ _ rfl (by simp only; omega),
      decodeFrom_last _ _ rfl (by simp only; omega), b₁, b₂, b₃, b₄]
    rw [show (((v / 262144 % 0x08 + 0xf0 - 0xF0) * 64 + (v / 4096 % 0x40 + 0x80 - 0x80)) * 64
      + (v / 64 % 0x40 + 0x80 - 0x80)) * 64 + (v % 0x40 + 0x80 - 0x80) = v by omega, whole]

theorem toNat_ofNat_of_valid {n : Nat} (h : n < 0xD800 ∨ 0xDFFF < n ∧ n < 0x110000) :
    (Char.ofNat n).toNat = n := by
  rw [Char.ofNat, dif_pos h]
  rfl

/-- A byte is the low byte of every number that ends in it. -/
theorem ofNat_eq_of_mod {n : Nat} {b : UInt8} (h : n % 256 = b.toNat) : UInt8.ofNat n = b := by
  rw [← UInt8.toNat_inj, UInt8.toNat_ofNat']
  exact h

theorem utf8EncodeChar_one {b : UInt8} (h : b.toNat < 0x80) :
    String.utf8EncodeChar (Char.ofNat b.toNat) = [b] := by
  unfold String.utf8EncodeChar
  simp only [Char.toNat_val]
  rw [toNat_ofNat_of_valid (by omega), if_pos (by omega), UInt8.ofNat_toNat]

theorem utf8EncodeChar_two {b₁ b₂ : UInt8} (first : 0xC2 ≤ b₁.toNat ∧ b₁.toNat ≤ 0xDF)
    (second : 0x80 ≤ b₂.toNat ∧ b₂.toNat ≤ 0xBF) :
    String.utf8EncodeChar (Char.ofNat ((b₁.toNat - 0xC0) * 64 + (b₂.toNat - 0x80)))
      = [b₁, b₂] := by
  unfold String.utf8EncodeChar
  simp only [Char.toNat_val]
  rw [toNat_ofNat_of_valid (by omega), if_neg (by omega), if_pos (by omega),
    ofNat_eq_of_mod (b := b₁) (by omega), ofNat_eq_of_mod (b := b₂) (by omega)]

theorem utf8EncodeChar_three {b₁ b₂ b₃ : UInt8} (first : 0xE0 ≤ b₁.toNat ∧ b₁.toNat ≤ 0xEF)
    (low : (if b₁.toNat = 0xE0 then 0xA0 else 0x80) ≤ b₂.toNat)
    (high : b₂.toNat ≤ if b₁.toNat = 0xED then 0x9F else 0xBF)
    (third : 0x80 ≤ b₃.toNat ∧ b₃.toNat ≤ 0xBF) :
    String.utf8EncodeChar (Char.ofNat (((b₁.toNat - 0xE0) * 64 + (b₂.toNat - 0x80)) * 64
      + (b₃.toNat - 0x80))) = [b₁, b₂, b₃] := by
  have second : 0x80 ≤ b₂.toNat ∧ b₂.toNat ≤ 0xBF := by split at low <;> split at high <;> omega
  unfold String.utf8EncodeChar
  simp only [Char.toNat_val]
  rw [toNat_ofNat_of_valid (by split at low <;> split at high <;> omega),
    if_neg (by split at low <;> omega),
    if_neg (by split at low <;> omega), if_pos (by omega), ofNat_eq_of_mod (b := b₁) (by omega),
    ofNat_eq_of_mod (b := b₂) (by omega), ofNat_eq_of_mod (b := b₃) (by omega)]

theorem utf8EncodeChar_four {b₁ b₂ b₃ b₄ : UInt8} (first : 0xF0 ≤ b₁.toNat ∧ b₁.toNat ≤ 0xF4)
    (low : (if b₁.toNat = 0xF0 then 0x90 else 0x80) ≤ b₂.toNat)
    (high : b₂.toNat ≤ if b₁.toNat = 0xF4 then 0x8F else 0xBF)
    (third : 0x80 ≤ b₃.toNat ∧ b₃.toNat ≤ 0xBF) (fourth : 0x80 ≤ b₄.toNat ∧ b₄.toNat ≤ 0xBF) :
    String.utf8EncodeChar (Char.ofNat ((((b₁.toNat - 0xF0) * 64 + (b₂.toNat - 0x80)) * 64
      + (b₃.toNat - 0x80)) * 64 + (b₄.toNat - 0x80))) = [b₁, b₂, b₃, b₄] := by
  have second : 0x80 ≤ b₂.toNat ∧ b₂.toNat ≤ 0xBF := by split at low <;> split at high <;> omega
  unfold String.utf8EncodeChar
  simp only [Char.toNat_val]
  rw [toNat_ofNat_of_valid (by split at low <;> split at high <;> omega),
    if_neg (by split at low <;> omega),
    if_neg (by split at low <;> omega), if_neg (by split at low <;> omega),
    ofNat_eq_of_mod (b := b₁) (by omega), ofNat_eq_of_mod (b := b₂) (by omega),
    ofNat_eq_of_mod (b := b₃) (by omega), ofNat_eq_of_mod (b := b₄) (by omega)]

/-- Whatever the machine accepts is empty or starts with the bytes of a character. -/
theorem exists_char_of_decodeFrom {position : Nat} {bytes : List UInt8} {text : List Char}
    (h : decodeFrom position none bytes = .ok text) :
    bytes = [] ∧ text = [] ∨ ∃ c rest tail after,
      bytes = String.utf8EncodeChar c ++ rest ∧ text = c :: tail ∧
        decodeFrom after none rest = .ok tail := by
  cases bytes with
  | nil => rw [decodeFrom] at h; cases h; exact .inl ⟨rfl, rfl⟩
  | cons b₁ rest =>
      right
      by_cases ascii : b₁.toNat < 0x80
      · rw [decodeFrom_ascii _ _ ascii] at h
        obtain ⟨tail, ok, rfl⟩ := exists_of_map_eq_ok h
        exact ⟨_, rest, tail, _, by rw [utf8EncodeChar_one ascii]; rfl, rfl, ok⟩
      by_cases two : 0xC2 ≤ b₁.toNat ∧ b₁.toNat ≤ 0xDF
      · rw [decodeFrom_lead _ ascii (lead?_two _ two.1 two.2)] at h
        obtain ⟨b₂, rest, rfl, low, high⟩ := exists_byte_of_decodeFrom h
        rw [decodeFrom_last _ _ rfl ⟨low, high⟩] at h
        obtain ⟨tail, ok, rfl⟩ := exists_of_map_eq_ok h
        exact ⟨_, rest, tail, _, by rw [utf8EncodeChar_two two ⟨low, high⟩]; rfl, rfl, ok⟩
      by_cases three : 0xE0 ≤ b₁.toNat ∧ b₁.toNat ≤ 0xEF
      · rw [decodeFrom_lead _ ascii (lead?_three _ three.1 three.2)] at h
        obtain ⟨b₂, rest, rfl, low₂, high₂⟩ := exists_byte_of_decodeFrom h
        rw [decodeFrom_more _ _ rfl ⟨low₂, high₂⟩] at h
        obtain ⟨b₃, rest, rfl, low₃, high₃⟩ := exists_byte_of_decodeFrom h
        rw [decodeFrom_last _ _ rfl ⟨low₃, high₃⟩] at h
        obtain ⟨tail, ok, rfl⟩ := exists_of_map_eq_ok h
        exact ⟨_, rest, tail, _,
          by rw [utf8EncodeChar_three three low₂ high₂ ⟨low₃, high₃⟩]; rfl, rfl, ok⟩
      by_cases four : 0xF0 ≤ b₁.toNat ∧ b₁.toNat ≤ 0xF4
      · rw [decodeFrom_lead _ ascii (lead?_four _ four.1 four.2)] at h
        obtain ⟨b₂, rest, rfl, low₂, high₂⟩ := exists_byte_of_decodeFrom h
        rw [decodeFrom_more _ _ rfl ⟨low₂, high₂⟩] at h
        obtain ⟨b₃, rest, rfl, low₃, high₃⟩ := exists_byte_of_decodeFrom h
        rw [decodeFrom_more _ _ rfl ⟨low₃, high₃⟩] at h
        obtain ⟨b₄, rest, rfl, low₄, high₄⟩ := exists_byte_of_decodeFrom h
        rw [decodeFrom_last _ _ rfl ⟨low₄, high₄⟩] at h
        obtain ⟨tail, ok, rfl⟩ := exists_of_map_eq_ok h
        exact ⟨_, rest, tail, _,
          by rw [utf8EncodeChar_four four low₂ high₂ ⟨low₃, high₃⟩ ⟨low₄, high₄⟩]; rfl, rfl, ok⟩
      · rw [decodeFrom, if_neg ascii, lead?_none _ (by omega)] at h
        cases h

/-! ## Texts -/

theorem encode_cons (c : Char) (s : List Char) :
    encode (c :: s) = String.utf8EncodeChar c ++ encode s := by
  rw [encode, List.flatMap_cons, encode]

theorem decodeFrom_encode (s : List Char) (position : Nat) :
    decodeFrom position none (encode s) = .ok s := by
  induction s generalizing position with
  | nil => rfl
  | cons c s ih => rw [encode_cons, decodeFrom_char, ih]; rfl

theorem encode_of_decodeFrom {position : Nat} {bytes : List UInt8} {text : List Char}
    (h : decodeFrom position none bytes = .ok text) : encode text = bytes := by
  induction text generalizing position bytes with
  | nil =>
      rcases exists_char_of_decodeFrom h with ⟨rfl, -⟩ | ⟨c, rest, tail, after, -, text, -⟩
      · rfl
      · cases text
  | cons c s ih =>
      rcases exists_char_of_decodeFrom h with ⟨-, text⟩ | ⟨c', rest, tail, after, rfl, text, ok⟩
      · cases text
      · cases text
        rw [encode_cons, ih ok]

/-- Bytes decode to a text exactly when they are its encoding. -/
theorem decode_eq_ok_iff {bytes : List UInt8} {text : List Char} :
    decode bytes = .ok text ↔ encode text = bytes := by
  constructor
  · exact encode_of_decodeFrom
  · rintro rfl
    exact decodeFrom_encode text 0

end PluginBuild.Text.Utf8
