/-
# Proofs.Wire.Value -- readers accept exactly what writers write

How a pipe cuts its bytes makes no difference: filling takes the bytes that are
there (`fill_eq`), so what a reader does depends on them alone (`Reader.Takes`).

`Reader.Inverts` is the exact law of a value on a pipe.  A reader returns a value,
having consumed its encoding and nothing else, when the bytes start with one; where
no byte is left it reports the end of the stream; and everything else it refuses as
malformed.  Numbers (`inverts_int32`), strings and blobs (`inverts_sized`) and texts
(`inverts_string`) obey it.
-/
import PluginBuild.Proofs.Text.Utf8
import PluginBuild.Wire.Progress

namespace PluginBuild.Wire

set_option autoImplicit false

open PluginBuild.Text

namespace Pipe

/-- Filling takes the bytes that are there, whatever the pieces they come in. -/
theorem fill_eq (p : Pipe) (size : Nat) :
    (p.fill size).1 = p.rest.take size ∧ (p.fill size).2.rest = p.rest.drop size := by
  fun_induction fill p size with
  | case1 => simp
  | case2 p size positive p' h =>
      obtain ⟨front, rfl⟩ := Prod.mk.inj h
      have empty : p.rest = [] := by
        have := congrArg List.length front
        simp only [List.length_take, portion, List.length_nil] at this
        exact List.length_eq_zero_iff.1 (by omega)
      simp [empty]
  | case3 p size _ b chunk p' h _ more p'' h' ih =>
      obtain ⟨front, rfl⟩ := Prod.mk.inj h
      have length := congrArg List.length front
      simp only [List.length_take, List.length_cons] at length
      have fits : p.portion size ≤ size := Nat.min_le_left _ _
      rw [h'] at ih
      simp only at ih ⊢
      have drops : p.rest.drop (p.portion size) = p.rest.drop (chunk.length + 1) := by
        rcases Nat.le_total (p.portion size) p.rest.length with le | le
        · rw [show p.portion size = chunk.length + 1 by omega]
        · rw [List.drop_of_length_le le, List.drop_of_length_le (by omega)]
      have takes : p.rest.take (chunk.length + 1) = b :: chunk := by
        rw [← front]
        rcases Nat.le_total (p.portion size) p.rest.length with le | le
        · rw [show p.portion size = chunk.length + 1 by omega]
        · rw [List.take_of_length_le le, List.take_of_length_le (by omega)]
      have whole : chunk.length + 1 + (size - (chunk.length + 1)) = size := by omega
      constructor
      · rw [ih.1, drops, ← takes, ← List.take_add, whole]
      · rw [ih.2, drops, List.drop_drop, whole]

end Pipe

namespace Reader

variable {α β : Type}

/-! ## What a reader makes of bytes -/

/-- However a pipe cuts `bytes`, the reader comes to `x` and leaves `rest`. -/
def Takes (r : Reader α) (bytes : List UInt8) (x : Except ReadError α) (rest : List UInt8) : Prop :=
  ∀ p : Pipe, p.rest = bytes → (r.runOn p).1 = x ∧ (r.runOn p).2.rest = rest

theorem Takes.unique {r : Reader α} {bytes rest rest' : List UInt8} {x x' : Except ReadError α}
    (h : r.Takes bytes x rest) (h' : r.Takes bytes x' rest') : x = x' ∧ rest = rest' := by
  have one := h (.whole bytes) rfl
  have other := h' (.whole bytes) rfl
  exact ⟨one.1.symm.trans other.1, one.2.symm.trans other.2⟩

theorem takes_pure (a : α) (bytes : List UInt8) :
    (pure a : Reader α).Takes bytes (.ok a) bytes := by
  rintro p rfl
  exact ⟨rfl, rfl⟩

theorem takes_throw (e : ReadError) (bytes : List UInt8) :
    (throw e : Reader α).Takes bytes (.error e) bytes := by
  rintro p rfl
  exact ⟨rfl, rfl⟩

theorem Takes.bind {r : Reader α} {f : α → Reader β} {bytes between rest : List UInt8} {a : α}
    {x : Except ReadError β} (h : r.Takes bytes (.ok a) between) (h' : (f a).Takes between x rest) :
    (r >>= f).Takes bytes x rest := by
  intro p hp
  obtain ⟨result, left⟩ := h p hp
  rw [runOn_bind]
  cases run : r.runOn p with
  | mk y p' =>
      rw [run] at result left
      subst result
      exact h' p' left

theorem Takes.bind_error {r : Reader α} (f : α → Reader β) {bytes rest : List UInt8} {e : ReadError}
    (h : r.Takes bytes (.error e) rest) : (r >>= f).Takes bytes (.error e) rest := by
  intro p hp
  obtain ⟨result, left⟩ := h p hp
  rw [runOn_bind]
  cases run : r.runOn p with
  | mk y p' =>
      rw [run] at result left
      subst result
      exact ⟨rfl, left⟩

theorem Takes.map {r : Reader α} {bytes rest : List UInt8} {x : Except ReadError α} (f : α → β)
    (h : r.Takes bytes x rest) : (f <$> r).Takes bytes (f <$> x) rest := by
  rw [← bind_pure_comp]
  cases x with
  | ok a => exact h.bind (takes_pure _ _)
  | error e => exact h.bind_error _

theorem Takes.tryCatch_ok {r : Reader α} (f : ReadError → Reader α) {bytes rest : List UInt8}
    {a : α} (h : r.Takes bytes (.ok a) rest) : (tryCatch r f).Takes bytes (.ok a) rest := by
  intro p hp
  obtain ⟨result, left⟩ := h p hp
  rw [runOn_tryCatch]
  cases run : r.runOn p with
  | mk y p' =>
      rw [run] at result left
      subst result
      exact ⟨rfl, left⟩

theorem Takes.tryCatch_error {r : Reader α} {f : ReadError → Reader α}
    {bytes between rest : List UInt8} {e : ReadError} {x : Except ReadError α}
    (h : r.Takes bytes (.error e) between) (h' : (f e).Takes between x rest) :
    (tryCatch r f).Takes bytes x rest := by
  intro p hp
  obtain ⟨result, left⟩ := h p hp
  rw [runOn_tryCatch]
  cases run : r.runOn p with
  | mk y p' =>
      rw [run] at result left
      subst result
      exact h' p' left

/-! ## So many bytes -/

theorem takes_exactly {size : Nat} (item : Item) {data : List UInt8} (rest : List UInt8)
    (h : data.length = size) : (exactly size item).Takes (data ++ rest) (.ok data) rest := by
  intro p hp
  subst h
  rw [runOn_exactly, (p.fill_eq _).1, (p.fill_eq _).2, hp, List.take_left, List.drop_left]
  rw [if_neg (by rintro ⟨positive, rfl⟩; exact positive rfl), if_neg (Nat.lt_irrefl _)]
  exact ⟨rfl, rfl⟩

theorem takes_exactly_closed {size : Nat} (item : Item) (positive : size ≠ 0) :
    (exactly size item).Takes [] (.error (.closed item)) [] := by
  intro p hp
  rw [runOn_exactly, (p.fill_eq _).1, (p.fill_eq _).2, hp, List.take_nil, List.drop_nil,
    if_pos ⟨positive, rfl⟩]
  exact ⟨rfl, rfl⟩

theorem takes_exactly_truncated {size : Nat} (item : Item) {bytes : List UInt8}
    (nonempty : bytes ≠ [])
    (short : bytes.length < size) :
    (exactly size item).Takes bytes (.error (.truncated item size bytes.length)) [] := by
  intro p hp
  rw [runOn_exactly, (p.fill_eq _).1, (p.fill_eq _).2, hp, List.take_of_length_le (by omega),
    List.drop_of_length_le (by omega), if_neg (fun h => nonempty h.2), if_pos short]
  exact ⟨rfl, rfl⟩

end Reader

/-! ## The law of a value -/

/-- Whether an error says that the bytes are no value, and neither that there are none
nor that a code is unknown. -/
def ReadError.isMalformed : ReadError → Bool
  | .closed _ | .unknownAction _ => false
  | _ => true

/-- The reader accepts exactly the encodings of `valid` values. -/
structure Reader.Inverts {α : Type} (r : Reader α) (valid : α → Prop) (encode : α → List UInt8) :
    Prop where
  /-- an encoding is consumed and nothing behind it -/
  accepts : ∀ a rest, valid a → r.Takes (encode a ++ rest) (.ok a) rest
  /-- where there are no bytes the stream has ended -/
  ends : ∃ item, r.Takes [] (.error (.closed item)) []
  /-- other bytes are malformed -/
  refuses : ∀ bytes, bytes ≠ [] → (∀ a rest, valid a → bytes ≠ encode a ++ rest) →
    ∃ e rest, e.isMalformed = true ∧ r.Takes bytes (.error e) rest

namespace Reader.Inverts

variable {α : Type} {r : Reader α} {valid : α → Prop} {encode : α → List UInt8}

/-- An encoding tells its value and where it ends. -/
theorem unique (law : r.Inverts valid encode) {a b : α} {rest rest' : List UInt8} (ha : valid a)
    (hb : valid b) (same : encode a ++ rest = encode b ++ rest') : a = b ∧ rest = rest' := by
  have one := law.accepts a rest ha
  rw [same] at one
  obtain ⟨value, left⟩ := one.unique (law.accepts b rest' hb)
  exact ⟨Except.ok.inj value, left⟩

end Reader.Inverts

/-! ## Numbers -/

theorem length_int32Bytes (n : Int) : (int32Bytes n).length = 4 := rfl

theorem fitsInt32_iff {n : Int} : fitsInt32 n = true ↔ -2147483648 ≤ n ∧ n ≤ 2147483647 := by
  simp [fitsInt32]

theorem int32OfBytes_int32Bytes {n : Int} (h : fitsInt32 n = true) :
    int32OfBytes (int32Bytes n) = n := by
  obtain ⟨low, high⟩ := fitsInt32_iff.1 h
  have digits : (int32Bytes n).foldr (fun b (m : Int) => b.toNat + 0x100 * m) 0
      = n % 4294967296 := by
    simp only [int32Bytes, List.foldr_cons, List.foldr_nil, UInt8.toNat_ofNat']
    omega
  have modulus : (4294967296 : Int) = ((4294967296 : Nat) : Int) := rfl
  rw [int32OfBytes, digits, modulus, Int.emod_bmod, Int.bmod_eq_of_le (by omega) (by omega)]

/-- Four bytes are the bytes of a number. -/
theorem exists_int32Bytes {bytes : List UInt8} (h : bytes.length = 4) :
    ∃ n, fitsInt32 n = true ∧ int32Bytes n = bytes := by
  obtain ⟨b₀, b₁, b₂, b₃, rfl⟩ : ∃ b₀ b₁ b₂ b₃, bytes = [b₀, b₁, b₂, b₃] := by
    match bytes, h with
    | [b₀, b₁, b₂, b₃], _ => exact ⟨b₀, b₁, b₂, b₃, rfl⟩
  have h₀ := b₀.toNat_lt
  have h₁ := b₁.toNat_lt
  have h₂ := b₂.toNat_lt
  have h₃ := b₃.toNat_lt
  let m : Nat := b₀.toNat + 0x100 * (b₁.toNat + 0x100 * (b₂.toNat + 0x100 * b₃.toNat))
  have low := Int.le_bmod (x := (m : Int)) (m := 4294967296) (by decide)
  have high := Int.bmod_lt (x := (m : Int)) (m := 4294967296) (by decide)
  refine ⟨Int.bmod m 4294967296, fitsInt32_iff.2 ⟨by omega, by omega⟩, ?_⟩
  have value : (Int.bmod m 4294967296 % 4294967296).toNat = m := by
    rw [show (4294967296 : Int) = ((4294967296 : Nat) : Int) from rfl, Int.bmod_emod]
    omega
  simp only [int32Bytes, value]
  rw [Utf8.ofNat_eq_of_mod (b := b₀) (by omega), Utf8.ofNat_eq_of_mod (b := b₁) (by omega),
    Utf8.ofNat_eq_of_mod (b := b₂) (by omega), Utf8.ofNat_eq_of_mod (b := b₃) (by omega)]

theorem inverts_int32 : Reader.int32.Inverts (fitsInt32 · = true) int32Bytes where
  accepts n rest fits := by
    have := (Reader.takes_exactly .int32 rest (length_int32Bytes n)).map int32OfBytes
    rwa [show int32OfBytes <$> (.ok (int32Bytes n) : Except ReadError _) = .ok n from
      congrArg Except.ok (int32OfBytes_int32Bytes fits)] at this
  ends := ⟨.int32, (Reader.takes_exactly_closed .int32 (by decide)).map _⟩
  refuses bytes nonempty other := by
    have short : bytes.length < 4 := by
      refine Nat.lt_of_not_le fun long => ?_
      have four : (bytes.take 4).length = 4 := by simp [long]
      obtain ⟨n, fits, front⟩ := exists_int32Bytes four
      exact other n (bytes.drop 4) fits (by rw [front, List.take_append_drop])
    exact ⟨_, [], rfl, (Reader.takes_exactly_truncated .int32 nonempty short).map _⟩

/-! ## Strings and blobs -/

/-- Whether four bytes hold the length of some bytes. -/
def Short (data : List UInt8) : Prop := data.length < 2147483648

instance (data : List UInt8) : Decidable (Short data) :=
  inferInstanceAs (Decidable (data.length < 2147483648))

/-- The bytes of a blob on a pipe. -/
def blobBytes (data : List UInt8) : List UInt8 := int32Bytes data.length ++ data

theorem Short.fitsInt32 {data : List UInt8} (h : Short data) :
    PluginBuild.Wire.fitsInt32 data.length = true := by
  unfold Short at h
  rw [fitsInt32_iff]
  omega

namespace Reader

/-- What follows the length of a string or a blob; its end is no clean end. -/
def payload (kind : Sized) (length : Int) : Reader (List UInt8) := do
  if length < 0 then throw (.negativeLength kind length)
  tryCatch (exactly length.toNat kind.payload) fun e =>
    throw (if e.isEndOfInput then .absentPayload kind else e)

theorem sized_eq (kind : Sized) : sized kind = int32 >>= payload kind := rfl

theorem takes_payload (kind : Sized) (data rest : List UInt8) :
    (payload kind data.length).Takes (data ++ rest) (.ok data) rest := by
  unfold payload
  rw [if_neg (by omega), Int.toNat_natCast]
  exact (takes_exactly kind.payload rest rfl).tryCatch_ok _

theorem takes_payload_negative (kind : Sized) {length : Int} (h : length < 0)
    (bytes : List UInt8) :
    (payload kind length).Takes bytes (.error (.negativeLength kind length)) bytes := by
  unfold payload
  rw [if_pos h]
  exact (takes_throw _ bytes).bind_error _

/-- Where there are fewer bytes than a length says, the value is malformed. -/
theorem exists_takes_payload_short (kind : Sized) {length : Nat} {bytes : List UInt8}
    (h : bytes.length < length) :
    ∃ e, e.isMalformed = true ∧ (payload kind length).Takes bytes (.error e) [] := by
  unfold payload
  rw [if_neg (by omega), Int.toNat_natCast]
  cases bytes with
  | nil =>
      refine ⟨.absentPayload kind, rfl, ?_⟩
      exact (takes_exactly_closed kind.payload (Nat.ne_of_gt h)).tryCatch_error (takes_throw _ _)
  | cons b bytes =>
      refine ⟨.truncated kind.payload length (bytes.length + 1), rfl, ?_⟩
      exact (takes_exactly_truncated kind.payload (List.cons_ne_nil _ _) h).tryCatch_error
        (takes_throw _ _)

end Reader

theorem inverts_sized (kind : Sized) : (Reader.sized kind).Inverts Short blobBytes where
  accepts data rest short := by
    rw [Reader.sized_eq, blobBytes, List.append_assoc]
    exact (inverts_int32.accepts _ _ short.fitsInt32).bind (Reader.takes_payload kind data rest)
  ends := by
    obtain ⟨item, ends⟩ := inverts_int32.ends
    exact ⟨item, ends.bind_error _⟩
  refuses bytes nonempty other := by
    rw [Reader.sized_eq]
    by_cases counted : ∃ n rest, fitsInt32 n = true ∧ bytes = int32Bytes n ++ rest
    · obtain ⟨n, rest, fits, rfl⟩ := counted
      have count := inverts_int32.accepts n rest fits
      have bounds := fitsInt32_iff.1 fits
      rcases Int.lt_or_le n 0 with negative | nonneg
      · exact ⟨.negativeLength kind n, rest, rfl,
          count.bind (Reader.takes_payload_negative kind negative rest)⟩
      · obtain ⟨length, rfl⟩ := Int.eq_ofNat_of_zero_le nonneg
        have short : rest.length < length := by
          refine Nat.lt_of_not_le fun long => ?_
          have size : (rest.take length).length = length := by simp [long]
          refine other (rest.take length) (rest.drop length) (by unfold Short; omega) ?_
          rw [blobBytes, size, List.append_assoc, List.take_append_drop]
        obtain ⟨e, malformed, takes⟩ := Reader.exists_takes_payload_short kind short
        exact ⟨e, [], malformed, count.bind takes⟩
    · obtain ⟨e, rest, malformed, takes⟩ := inverts_int32.refuses bytes nonempty
        fun n rest fits eq => counted ⟨n, rest, fits, eq⟩
      exact ⟨e, rest, malformed, takes.bind_error _⟩

/-! ## Texts -/

/-- Whether four bytes hold the length of a text in UTF-8.  A text here is a list of characters,
and each of them has bytes: one with a lone surrogate, which has none, is not among them. -/
def ShortText (s : String) : Prop := Short (Utf8.encode s.toList)

instance (s : String) : Decidable (ShortText s) :=
  inferInstanceAs (Decidable (Short (Utf8.encode s.toList)))

theorem length_encode_replicate (n : Nat) : (Utf8.encode (List.replicate n 'a')).length = n := by
  have one : 'a'.utf8Size = 1 := by decide
  simp [Utf8.encode, one]

theorem shortText_replicate_iff (n : Nat) :
    ShortText (String.ofList (List.replicate n 'a')) ↔ n < 2147483648 := by
  rw [ShortText, Short, String.toList_ofList, length_encode_replicate]

/-- The bytes of a text on a pipe. -/
def stringBytes (s : String) : List UInt8 := blobBytes (Utf8.encode s.toList)

namespace Reader

/-- What becomes of the bytes of a text. -/
def text (data : List UInt8) : Reader String :=
  match Utf8.decode data with
  | .ok s => return String.ofList s
  | .error cause => throw (.invalidText cause)

theorem string_eq : string = sized .string >>= text := rfl

theorem text_encode (s : String) : text (Utf8.encode s.toList) = pure s := by
  rw [text, Utf8.decode_eq_ok_iff.2 rfl]
  simp only [String.ofList_toList]

end Reader

/-- A text is accepted exactly in strict UTF-8. -/
theorem inverts_string : Reader.string.Inverts ShortText stringBytes where
  accepts s rest short := by
    rw [Reader.string_eq]
    refine ((inverts_sized .string).accepts _ rest short).bind ?_
    rw [Reader.text_encode]
    exact Reader.takes_pure s rest
  ends := by
    obtain ⟨item, ends⟩ := (inverts_sized .string).ends
    exact ⟨item, ends.bind_error _⟩
  refuses bytes nonempty other := by
    rw [Reader.string_eq]
    by_cases blob : ∃ data rest, Short data ∧ bytes = blobBytes data ++ rest
    · obtain ⟨data, rest, short, rfl⟩ := blob
      have sized := (inverts_sized .string).accepts data rest short
      cases decoded : Utf8.decode data with
      | ok s =>
          have encoded : Utf8.encode (String.ofList s).toList = data := by
            rw [String.toList_ofList, Utf8.decode_eq_ok_iff.1 decoded]
          refine absurd ?_ (other (String.ofList s) rest (by rw [ShortText, encoded]; exact short))
          rw [stringBytes, encoded]
      | error cause =>
          refine ⟨.invalidText cause, rest, rfl, sized.bind ?_⟩
          rw [Reader.text, decoded]
          exact Reader.takes_throw _ rest
    · obtain ⟨e, rest, malformed, takes⟩ := (inverts_sized .string).refuses bytes nonempty
        fun data rest short eq => blob ⟨data, rest, short, eq⟩
      exact ⟨e, rest, malformed, takes.bind_error _⟩

end PluginBuild.Wire
