/-
# Proofs.Wire.Result -- an answer arrives as it was given

A result whose lengths fit is put on the pipe in one write and flushed, and of any other
nothing is written (`Writer.appends_result`, `Writer.result_refused`).  Of what is written
only the library or only the diagnostics are left (`CompileResult.plain`), and that is read
back, and nothing behind it is touched (`Reader.takes_result`).

Of other bytes a result is read exactly if they begin with the frame of one (`ResultFrame`,
`Reader.takes_result_iff`), and no end of the stream is taken for a clean one.  No frame
begins with another (`ResultFrame.unique`), so a frame that is cut off anywhere is refused
(`result_framed`).
-/
import PluginBuild.Proofs.Wire.Frame

namespace PluginBuild.Wire

set_option autoImplicit false

namespace CompileResult

/-- Whether four bytes hold every length in a result. -/
structure Fits (r : CompileResult) : Prop where
  payload : Short r.payload
  count : r.diagnostics.length < 2147483648
  diagnostics : ∀ s ∈ r.diagnostics, ShortText s

/-- Whether four bytes hold every length that is written of a result: that of its library, or
else those of its diagnostics. -/
def Writable (r : CompileResult) : Prop :=
  if r.success then Short r.payload
  else r.diagnostics.length < 2147483648 ∧ ∀ s ∈ r.diagnostics, ShortText s

instance (r : CompileResult) : Decidable r.Writable :=
  inferInstanceAs (Decidable (if r.success then Short r.payload
    else r.diagnostics.length < 2147483648 ∧ ∀ s ∈ r.diagnostics, ShortText s))

/-- Whether a result is a library or a list of diagnostics, and not both. -/
def IsPlain (r : CompileResult) : Prop := r = succeeded r.payload ∨ r = failed r.diagnostics

/-- What is written of a result: its library, or else its diagnostics. -/
def plain (r : CompileResult) : CompileResult :=
  if r.success then succeeded r.payload else failed r.diagnostics

/-- The bytes of a result. -/
def bytes (r : CompileResult) : List UInt8 :=
  if r.success then 1 :: blobBytes r.payload
  else 0 :: (int32Bytes r.diagnostics.length ++ r.diagnostics.flatMap stringBytes)

/-- What is done to a pipe to put a result on it. -/
def ops (r : CompileResult) : List PipeOp := [.write r.bytes, .flush]

variable {r : CompileResult}

theorem Fits.writable (h : r.Fits) : r.Writable := by
  unfold Writable
  split
  · exact h.payload
  · exact ⟨h.count, h.diagnostics⟩

theorem writable_of_success (success : r.success = true) : r.Writable ↔ Short r.payload := by
  rw [Writable, success, if_pos rfl]

theorem writable_of_failure (failure : r.success = false) :
    r.Writable ↔ r.diagnostics.length < 2147483648 ∧ ∀ s ∈ r.diagnostics, ShortText s := by
  rw [Writable, failure, if_neg Bool.false_ne_true]

theorem fitsInt32_count (short : r.diagnostics.length < 2147483648) :
    fitsInt32 r.diagnostics.length = true := by
  rw [fitsInt32_iff]
  omega

theorem IsPlain.plain_eq (h : r.IsPlain) : r.plain = r := by
  rcases h with same | same <;> rw [same] <;> rfl

/-- A result is written as it is if it has no diagnostics beside a library, and no library
beside diagnostics. -/
theorem plain_eq_iff : r.plain = r ↔
    (r.success = true → r.diagnostics = []) ∧ (r.success = false → r.payload = []) := by
  obtain ⟨success, payload, diagnostics⟩ := r
  cases success <;> simp [plain, succeeded, failed, eq_comm]

end CompileResult

namespace Writer

variable {r : CompileResult}

theorem appends_boolean (b : Bool) : (boolean b).Appends () [.write [if b then 1 else 0]] :=
  appends_write _

/-- The parts of a result come to its bytes. -/
theorem appends_resultParts (h : r.Writable) :
    ∃ ops, (resultParts r).Appends () ops ∧ ops.flatMap PipeOp.bytes = r.bytes := by
  unfold resultParts CompileResult.bytes
  cases success : r.success with
  | true =>
      have short := (CompileResult.writable_of_success success).1 h
      refine ⟨_, (appends_boolean true).bind (appends_blob short), ?_⟩
      simp [PipeOp.bytes, blobBytes]
  | false =>
      obtain ⟨count, short⟩ := (CompileResult.writable_of_failure success).1 h
      refine ⟨_, (appends_boolean false).bind
        ((appends_int32 (CompileResult.fitsInt32_count count)).bind (appends_strings short)), ?_⟩
      simp only [List.flatMap_append, flatMap_stringOps]
      simp [PipeOp.bytes]

theorem fails_resultParts (h : ¬r.Writable) : (resultParts r).Fails := by
  unfold resultParts
  refine (appends_boolean r.success).bind_fails ?_
  cases success : r.success with
  | true =>
      rw [CompileResult.writable_of_success success] at h
      rw [if_pos rfl]
      exact (refuses_blob h).fails
  | false =>
      rw [CompileResult.writable_of_failure success] at h
      rw [if_neg Bool.false_ne_true]
      by_cases count : r.diagnostics.length < 2147483648
      · refine (appends_int32 (CompileResult.fitsInt32_count count)).bind_fails ?_
        exact fails_strings fun short => h ⟨count, short⟩
      · refine (refuses_int32 ?_).fails.bind _
        rw [fitsInt32_iff]
        omega

theorem appends_result (h : r.Writable) : (result r).Appends () r.ops := by
  obtain ⟨ops, parts, bytes⟩ := appends_resultParts h
  have written : (resultParts r).bytes = r.bytes := by rw [Writer.bytes, parts.operations, bytes]
  unfold result
  rw [parts.operations, written]
  exact (appends_write r.bytes).bind appends_flush

/-- Of a result with a length that does not fit nothing is written. -/
theorem result_refused (h : ¬r.Writable) (before : List PipeOp) :
    ∃ e, (result r).run.run before = (.error e, before) := by
  obtain ⟨e, ops, failed⟩ := fails_resultParts h []
  have parts : (resultParts r).operations = (.error e, ops) := failed
  refine ⟨e, ?_⟩
  unfold result
  rw [parts]
  rfl

end Writer

/-! ## Bytes that begin with a result -/

/-- The frames of results: any byte but zero and a blob, or a zero and counted texts. -/
inductive ResultFrame : List UInt8 → CompileResult → Prop where
  | library {flag : UInt8} {payload : List UInt8} (set : flag ≠ 0) (short : Short payload) :
      ResultFrame (flag :: blobBytes payload) (.succeeded payload)
  | diagnostics {lines : List String} (count : lines.length < 2147483648)
      (short : ∀ s ∈ lines, ShortText s) :
      ResultFrame (0 :: (int32Bytes lines.length ++ lines.flatMap stringBytes)) (.failed lines)

/-- What is written of a result is a frame. -/
theorem ResultFrame.of_writable {r : CompileResult} (h : r.Writable) :
    ResultFrame r.bytes r.plain := by
  unfold CompileResult.bytes CompileResult.plain
  cases success : r.success with
  | true => exact .library (by decide) ((CompileResult.writable_of_success success).1 h)
  | false =>
      obtain ⟨count, short⟩ := (CompileResult.writable_of_failure success).1 h
      exact .diagnostics count short

/-- The bytes of a frame when its flag is a one or a zero. -/
def normalFlag : List UInt8 → List UInt8
  | [] => []
  | flag :: rest => (if flag ≠ 0 then 1 else 0) :: rest

/-- The result of a frame can be written, and gives the frame but for its flag. -/
theorem ResultFrame.bytes_eq {frame : List UInt8} {r : CompileResult} (h : ResultFrame frame r) :
    r.Writable ∧ r.bytes = normalFlag frame := by
  cases h with
  | library set short =>
      refine ⟨(CompileResult.writable_of_success rfl).2 short, ?_⟩
      rw [normalFlag, if_pos set]
      rfl
  | diagnostics count short => exact ⟨(CompileResult.writable_of_failure rfl).2 ⟨count, short⟩, rfl⟩

/-- Whether an error says that the stream has ended or holds no value, and not that a code is
unknown. -/
def ReadError.IsOfValue (e : ReadError) : Prop := e.isEndOfInput = true ∨ e.isMalformed = true

/-- Bytes either begin with an encoding, or reading a value from them fails. -/
theorem Reader.Inverts.cases {α : Type} {r : Reader α} {valid : α → Prop}
    {encode : α → List UInt8} (law : r.Inverts valid encode) (bytes : List UInt8) :
    (∃ a rest, valid a ∧ bytes = encode a ++ rest ∧ r.Takes bytes (.ok a) rest) ∨
      ∃ e rest, e.IsOfValue ∧ r.Takes bytes (.error e) rest := by
  by_cases begins : ∃ a rest, valid a ∧ bytes = encode a ++ rest
  · obtain ⟨a, rest, fits, rfl⟩ := begins
    exact .inl ⟨a, rest, fits, rfl, law.accepts a rest fits⟩
  · cases bytes with
    | nil =>
        obtain ⟨item, ends⟩ := law.ends
        exact .inr ⟨_, [], .inl rfl, ends⟩
    | cons b bytes =>
        obtain ⟨e, rest, malformed, takes⟩ := law.refuses (b :: bytes) (List.cons_ne_nil _ _)
          fun a rest fits same => begins ⟨a, rest, fits, same⟩
        exact .inr ⟨e, rest, .inr malformed, takes⟩

namespace Reader

theorem takes_boolean_cons (flag : UInt8) (rest : List UInt8) :
    boolean.Takes (flag :: rest) (.ok (decide (flag ≠ 0))) rest := by
  have one : [flag].length = 1 := rfl
  have takes := (takes_exactly .boolean rest one).map fun data => decide (data ≠ [0])
  have same : decide ([flag] ≠ [0]) = decide (flag ≠ 0) := by simp
  rw [← same]
  exact takes

/-- Bytes either begin with so many texts, or reading them fails. -/
theorem takes_strings_cases (n : Nat) (bytes : List UInt8) :
    (∃ (lines : List String) (rest : List UInt8), lines.length = n ∧
        (∀ s ∈ lines, ShortText s) ∧ bytes = lines.flatMap stringBytes ++ rest) ∨
      ∃ e rest, e.IsOfValue ∧ (strings n).Takes bytes (.error e) rest := by
  induction n generalizing bytes with
  | zero => exact .inl ⟨[], bytes, rfl, nofun, rfl⟩
  | succ n ih =>
      rcases inverts_string.cases bytes with ⟨s, between, short, rfl, first⟩ |
        ⟨e, rest, kind, fails⟩
      · rcases ih between with ⟨lines, rest, length, shorts, rfl⟩ | ⟨e, rest, kind, fails⟩
        · refine .inl ⟨s :: lines, rest, by rw [List.length_cons, length], ?_, ?_⟩
          · exact List.forall_mem_cons.2 ⟨short, shorts⟩
          · rw [List.flatMap_cons, List.append_assoc]
        · exact .inr ⟨e, rest, kind, first.bind (fails.bind_error _)⟩
      · exact .inr ⟨e, rest, kind, fails.bind_error _⟩

/-- What is read where a result is owed, before the end of the stream is looked at. -/
def owed : Reader CompileResult := do
  if ← boolean then return .succeeded (← blob)
  let count ← int32
  if count < 0 then throw (.negativeCount count)
  return .failed (← strings count.toNat)

theorem takes_owed {frame : List UInt8} {r : CompileResult} (h : ResultFrame frame r)
    (rest : List UInt8) : owed.Takes (frame ++ rest) (.ok r) rest := by
  cases h with
  | library set short =>
      refine (takes_boolean_cons _ _).bind ?_
      rw [if_pos (decide_eq_true set)]
      exact ((inverts_sized .blob).accepts _ rest short).bind (takes_pure _ rest)
  | @diagnostics lines count short =>
      have fits : fitsInt32 lines.length = true := by
        rw [fitsInt32_iff]
        omega
      rw [List.cons_append, List.append_assoc]
      refine (takes_boolean_cons _ _).bind ?_
      rw [if_neg (by decide)]
      refine (inverts_int32.accepts _ _ fits).bind ?_
      rw [if_neg (by omega), Int.toNat_natCast]
      exact (takes_strings _ rest short).bind (takes_pure _ rest)

theorem takes_result_of_frame {frame : List UInt8} {r : CompileResult} (h : ResultFrame frame r)
    (rest : List UInt8) : result.Takes (frame ++ rest) (.ok r) rest :=
  (takes_owed h rest).tryCatch_ok _

/-- Reading takes a result off the bytes and nothing behind it. -/
theorem takes_result {r : CompileResult} (h : r.Fits) (plain : r.IsPlain) (rest : List UInt8) :
    result.Takes (r.bytes ++ rest) (.ok r) rest := by
  have takes := takes_result_of_frame (.of_writable h.writable) rest
  rw [plain.plain_eq] at takes
  exact takes

/-- Bytes either begin with a frame, or reading what is owed from them fails. -/
theorem takes_owed_cases (bytes : List UInt8) :
    (∃ frame rest r, ResultFrame frame r ∧ bytes = frame ++ rest) ∨
      ∃ e rest, e.IsOfValue ∧ owed.Takes bytes (.error e) rest := by
  cases bytes with
  | nil =>
      have one : (exactly 1 .boolean).Takes [] (.error (.closed .boolean)) [] :=
        takes_exactly_closed .boolean (by decide)
      have closed : boolean.Takes [] (.error (.closed .boolean)) [] :=
        one.map fun data => decide (data ≠ [0])
      exact .inr ⟨_, [], .inl rfl, closed.bind_error _⟩
  | cons flag bytes =>
      have first := takes_boolean_cons flag bytes
      by_cases set : flag ≠ 0
      · rw [decide_eq_true set] at first
        rcases (inverts_sized .blob).cases bytes with ⟨data, rest, short, rfl, -⟩ |
          ⟨e, rest, kind, fails⟩
        · exact .inl ⟨_, rest, _, .library set short, rfl⟩
        · refine .inr ⟨e, rest, kind, first.bind ?_⟩
          rw [if_pos rfl]
          exact fails.bind_error _
      · obtain rfl := Decidable.not_not.1 set
        rw [decide_eq_false set] at first
        rcases inverts_int32.cases bytes with ⟨count, between, fits, rfl, counted⟩ |
          ⟨e, rest, kind, fails⟩
        · by_cases negative : count < 0
          · refine .inr ⟨.negativeCount count, between, .inr rfl, first.bind ?_⟩
            rw [if_neg Bool.false_ne_true]
            refine counted.bind ?_
            rw [if_pos negative]
            exact (takes_throw _ between).bind_error _
          · obtain ⟨n, rfl⟩ := Int.eq_ofNat_of_zero_le (Int.not_lt.1 negative)
            rcases takes_strings_cases n between with ⟨lines, rest, rfl, short, rfl⟩ |
              ⟨e, rest, kind, fails⟩
            · have bounds := fitsInt32_iff.1 fits
              refine .inl ⟨_, rest, _, .diagnostics (by omega) short, ?_⟩
              rw [List.cons_append, List.append_assoc]
            · refine .inr ⟨e, rest, kind, first.bind ?_⟩
              rw [if_neg Bool.false_ne_true]
              refine counted.bind ?_
              rw [if_neg negative, Int.toNat_natCast]
              exact fails.bind_error _
        · refine .inr ⟨e, rest, kind, first.bind ?_⟩
          rw [if_neg Bool.false_ne_true]
          exact fails.bind_error _

/-- A result is read from bytes exactly if they begin with a frame of it; else reading
fails, and takes even the end of the stream for malformed. -/
theorem takes_result_iff (bytes : List UInt8) :
    (∀ r rest, result.Takes bytes (.ok r) rest ↔
      ∃ frame, ResultFrame frame r ∧ bytes = frame ++ rest) ∧
    ((¬ ∃ frame rest r, ResultFrame frame r ∧ bytes = frame ++ rest) →
      ∃ e rest, e.isMalformed = true ∧ result.Takes bytes (.error e) rest) := by
  have refuses : (¬ ∃ frame rest r, ResultFrame frame r ∧ bytes = frame ++ rest) →
      ∃ e rest, e.isMalformed = true ∧ result.Takes bytes (.error e) rest := by
    intro other
    rcases takes_owed_cases bytes with begins | ⟨e, rest, kind, fails⟩
    · exact absurd begins other
    · cases e with
      | closed item =>
          exact ⟨.absentResult item, rest, rfl, fails.tryCatch_error (takes_throw _ rest)⟩
      | unknownAction code => rcases kind with ended | malformed <;> contradiction
      | _ => exact ⟨_, rest, rfl, fails.tryCatch_error (takes_throw _ rest)⟩
  refine ⟨fun r rest => ⟨?_, ?_⟩, refuses⟩
  · intro takes
    by_cases begins : ∃ frame rest r, ResultFrame frame r ∧ bytes = frame ++ rest
    · obtain ⟨frame, rest', r', ofFrame, rfl⟩ := begins
      obtain ⟨result, rfl⟩ := takes.unique (takes_result_of_frame ofFrame rest')
      cases result
      exact ⟨frame, ofFrame, rfl⟩
    · obtain ⟨e, rest', -, fails⟩ := refuses begins
      obtain ⟨result, -⟩ := takes.unique fails
      cases result
  · rintro ⟨frame, ofFrame, rfl⟩
    exact takes_result_of_frame ofFrame rest

end Reader

/-! ## The codec of results -/

/-- The bytes of a frame tell the result and where it ends. -/
theorem ResultFrame.unique {frame frame' rest rest' : List UInt8} {r r' : CompileResult}
    (h : ResultFrame frame r) (h' : ResultFrame frame' r')
    (same : frame ++ rest = frame' ++ rest') : r = r' ∧ rest = rest' := by
  have one := Reader.takes_result_of_frame h rest
  rw [same] at one
  obtain ⟨result, left⟩ := one.unique (Reader.takes_result_of_frame h' rest')
  exact ⟨Except.ok.inj result, left⟩

/-- A frame that is cut off anywhere begins with no frame. -/
theorem ResultFrame.not_begins {frame front tail : List UInt8} {r : CompileResult}
    (h : ResultFrame frame r) (cut : front ++ tail = frame) (lost : tail ≠ []) :
    ¬ ∃ frame' rest r', ResultFrame frame' r' ∧ front = frame' ++ rest := by
  rintro ⟨frame', rest, r', h', rfl⟩
  have same : frame' ++ (rest ++ tail) = frame ++ [] := by
    rw [← cut, List.append_nil, List.append_assoc]
  have nothing : rest ++ tail = [] := (h'.unique h same).2
  exact lost (List.append_eq_nil_iff.1 nothing).2

/-- A result on its way over a pipe. -/
structure CompileResult.IsFramed (r : CompileResult) : Prop where
  /-- it is put on the pipe in one write, that of a whole frame, and flushed -/
  written : r.Writable → ResultFrame r.bytes r.plain ∧ ∀ before,
    (Writer.result r).run.run before = (.ok (), before ++ [.write r.bytes, .flush])
  /-- or nothing is done to the pipe -/
  refused : ¬r.Writable → ∀ before, ∃ e,
    (Writer.result r).run.run before = (.error e, before)
  /-- the frame is read and nothing behind it, as the same result where nothing was lost -/
  read : r.Writable → ∀ rest, ∃ r', Reader.result.Takes (r.bytes ++ rest) (.ok r') rest ∧
    (r' = r ↔ (r.success = true → r.diagnostics = []) ∧ (r.success = false → r.payload = []))
  /-- a part of the frame is no result -/
  cut : r.Writable → ∀ front, front <+: r.bytes → front ≠ r.bytes →
    ∃ e rest, e.isMalformed = true ∧ Reader.result.Takes front (.error e) rest

/-- Bytes that a result is read from. -/
structure Reader.ReadsResult (bytes : List UInt8) : Prop where
  /-- a result is read exactly where the frame of one stands -/
  accepts : ∀ r rest, result.Takes bytes (.ok r) rest ↔
    ∃ frame, ResultFrame frame r ∧ bytes = frame ++ rest
  /-- what was read is written again as it stood there, but for the flag -/
  rewrites : ∀ r rest, result.Takes bytes (.ok r) rest → ∃ frame, bytes = frame ++ rest ∧
    (Writer.result r).operations = (.ok (), [.write (normalFlag frame), .flush])
  refuses : (¬ ∃ frame rest r, ResultFrame frame r ∧ bytes = frame ++ rest) →
    ∃ e rest, e.isMalformed = true ∧ result.Takes bytes (.error e) rest

/-- A result is put on a pipe whole or not at all, it is read from exactly the bytes that begin
with a frame, and everything else is malformed, a frame that is cut off included. -/
theorem result_framed : (∀ r : CompileResult, r.IsFramed) ∧
    ∀ bytes, Reader.ReadsResult bytes := by
  constructor
  · intro r
    refine ⟨?_, Writer.result_refused, ?_, ?_⟩
    · intro writable
      exact ⟨.of_writable writable, Writer.appends_result writable⟩
    · intro writable rest
      have takes := Reader.takes_result_of_frame (.of_writable writable) rest
      exact ⟨r.plain, takes, CompileResult.plain_eq_iff⟩
    · rintro writable front ⟨tail, whole⟩ short
      have lost : tail ≠ [] := by
        rintro rfl
        exact short (by rw [← whole, List.append_nil])
      have frame := ResultFrame.of_writable writable
      exact (Reader.takes_result_iff front).2 (frame.not_begins whole lost)
  · intro bytes
    obtain ⟨accepts, refuses⟩ := Reader.takes_result_iff bytes
    refine ⟨accepts, ?_, refuses⟩
    intro r rest takes
    obtain ⟨frame, ofFrame, begins⟩ := (accepts r rest).1 takes
    obtain ⟨writable, same⟩ := ofFrame.bytes_eq
    refine ⟨frame, begins, ?_⟩
    rw [(Writer.appends_result writable).operations, CompileResult.ops, same]

/-- A library of two bytes with a line beside it loses the line, a flag of seven reads as a one,
and a frame without its last byte is refused. -/
theorem result_framed_library :
    (∃ r, Reader.result.Takes ([1, 2, 0, 0, 0, 5, 6] ++ [9]) (.ok r) [9] ∧
        r ≠ ⟨true, [5, 6], ["lost"]⟩) ∧
      Reader.result.Takes ([7, 2, 0, 0, 0, 5, 6] ++ [9]) (.ok ⟨true, [5, 6], []⟩) [9] ∧
      ∃ e rest, e.isMalformed = true ∧
        Reader.result.Takes [1, 2, 0, 0, 0, 5] (.error e) rest := by
  have writable : (CompileResult.mk true [5, 6] ["lost"]).Writable := by decide
  obtain ⟨framed, reads⟩ := result_framed
  obtain ⟨r, takes, same⟩ := (framed ⟨true, [5, 6], ["lost"]⟩).read writable [9]
  refine ⟨⟨r, takes, fun kept => ?_⟩, ?_, ?_⟩
  · exact absurd ((same.1 kept).1 rfl) (by decide)
  · exact ((reads _).accepts _ _).2 ⟨_, .library (by decide) (by decide), rfl⟩
  · exact (framed ⟨true, [5, 6], ["lost"]⟩).cut writable _ ⟨[6], rfl⟩ (by decide)

end PluginBuild.Wire
