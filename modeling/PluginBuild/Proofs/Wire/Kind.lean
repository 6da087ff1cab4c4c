/-
# Proofs.Wire.Kind -- values of all kinds, one behind another

Four kinds of values travel on a pipe, and each has its reader and its writer
(`Kind.read`, `Kind.write`).  A writer puts a value on the pipe exactly if it fits
(`Kind.result_write`).  A reader returns a value, and consumes its bytes and nothing else,
exactly where bytes stand for one (`Kind.Spells`), however the pipe cuts them
(`Kind.decodes`).  So values that were written one behind another are read back in order,
and nothing is left over (`takes_readAll`).
-/
import PluginBuild.Proofs.Wire.Result

namespace PluginBuild.Wire

set_option autoImplicit false

/-- The kinds of values that travel on a pipe. -/
inductive Kind where
  | int32
  | boolean
  | string
  | blob
deriving DecidableEq, Repr

namespace Kind

/-- What the values of a kind are. -/
abbrev Content : Kind → Type
  | int32 => Int
  | boolean => Bool
  | string => String
  | blob => List UInt8

def read : (k : Kind) → Reader k.Content
  | int32 => Reader.int32
  | boolean => Reader.boolean
  | string => Reader.string
  | blob => Reader.blob

def write : (k : Kind) → k.Content → Writer Unit
  | int32 => Writer.int32
  | boolean => Writer.boolean
  | string => Writer.string
  | blob => Writer.blob

/-- Whether four bytes hold a number, or the length of a string or a blob. -/
def Fits : (k : Kind) → k.Content → Prop
  | int32, n => fitsInt32 n = true
  | boolean, _ => True
  | string, s => ShortText s
  | blob, data => Short data

/-- Whether a value is the truth value true. -/
def IsTrue : (k : Kind) → k.Content → Prop
  | boolean, b => b = true
  | _, _ => False

/-- Whether bytes stand for a value: its writer puts them on the pipe, or they are any byte but
zero, which stands for true. -/
def Spells (k : Kind) (bytes : List UInt8) (v : k.Content) : Prop :=
  ((k.write v).operations.1 = .ok () ∧ (k.write v).bytes = bytes) ∨
    (k.IsTrue v ∧ ∃ flag, flag ≠ 0 ∧ bytes = [flag])

/-! ## Writing -/

/-- The bytes of a value. -/
def bytes : (k : Kind) → k.Content → List UInt8
  | int32, n => int32Bytes n
  | boolean, b => [if b then 1 else 0]
  | string, s => stringBytes s
  | blob, data => blobBytes data

/-- A value that fits is put on the pipe. -/
theorem appends_write {k : Kind} {v : k.Content} (fits : k.Fits v) :
    ∃ ops, (k.write v).Appends () ops ∧ ops.flatMap PipeOp.bytes = k.bytes v := by
  cases k with
  | int32 => exact ⟨_, Writer.appends_int32 fits, List.append_nil _⟩
  | boolean => exact ⟨_, Writer.appends_boolean v, List.append_nil _⟩
  | string => exact ⟨_, Writer.appends_blob fits, Writer.bytes_stringOps v⟩
  | blob => exact ⟨_, Writer.appends_blob fits, by simp [PipeOp.bytes, bytes, blobBytes]⟩

theorem fails_write {k : Kind} {v : k.Content} (unfit : ¬k.Fits v) : (k.write v).Fails := by
  cases k with
  | int32 => exact (Writer.refuses_int32 unfit).fails
  | boolean => exact absurd trivial unfit
  | string => exact (Writer.refuses_blob unfit).fails
  | blob => exact (Writer.refuses_blob unfit).fails

/-- A value is written exactly if it fits. -/
theorem result_write {k : Kind} {v : k.Content} :
    (k.write v).operations.1 = .ok () ↔ k.Fits v := by
  by_cases fits : k.Fits v
  · obtain ⟨ops, appends, -⟩ := appends_write fits
    simp [appends.operations, fits]
  · obtain ⟨e, ops, failed⟩ := fails_write fits []
    have run : (k.write v).operations = (.error e, ops) := failed
    simp [run, fits]

theorem bytes_write {k : Kind} {v : k.Content} (fits : k.Fits v) :
    (k.write v).bytes = k.bytes v := by
  obtain ⟨ops, appends, same⟩ := appends_write fits
  rw [Writer.bytes, appends.operations, same]

theorem written_iff {k : Kind} {bytes : List UInt8} {v : k.Content} :
    ((k.write v).operations.1 = .ok () ∧ (k.write v).bytes = bytes) ↔
      k.Fits v ∧ bytes = k.bytes v := by
  rw [result_write]
  constructor
  · rintro ⟨fits, rfl⟩
    exact ⟨fits, bytes_write fits⟩
  · rintro ⟨fits, rfl⟩
    exact ⟨fits, bytes_write fits⟩

/-- Bytes stand for a value that is no truth value exactly if they are its own. -/
theorem spells_iff {k : Kind} (other : k ≠ boolean) {bytes : List UInt8} {v : k.Content} :
    k.Spells bytes v ↔ k.Fits v ∧ bytes = k.bytes v := by
  have never : ¬k.IsTrue v := by cases k <;> simp_all [IsTrue]
  simp only [Spells, written_iff, never, false_and, or_false]

/-- Each byte stands for one truth value. -/
theorem spells_boolean_iff {bytes : List UInt8} {b : Bool} :
    boolean.Spells bytes b ↔ ∃ flag, bytes = [flag] ∧ b = decide (flag ≠ 0) := by
  simp only [Spells, written_iff]
  constructor
  · rintro (⟨-, rfl⟩ | ⟨rfl, flag, set, rfl⟩)
    · exact ⟨if b then 1 else 0, rfl, by cases b <;> rfl⟩
    · exact ⟨flag, rfl, (decide_eq_true set).symm⟩
  · rintro ⟨flag, rfl, rfl⟩
    by_cases set : flag = 0
    · exact .inl ⟨trivial, by simp [bytes, set]⟩
    · exact .inr ⟨by simp [IsTrue, set], flag, set, rfl⟩

end Kind

/-! ## Reading -/

/-- A reader that returns a value exactly where bytes stand for one. -/
structure Reader.Decodes {α : Type} (r : Reader α) (spells : List UInt8 → α → Prop) : Prop where
  accepts : ∀ bytes a rest, spells bytes a → r.Takes (bytes ++ rest) (.ok a) rest
  ends : ∃ item, r.Takes [] (.error (.closed item)) []
  refuses : ∀ bytes, bytes ≠ [] → (∀ front a rest, spells front a → bytes ≠ front ++ rest) →
    ∃ e rest, e.isMalformed = true ∧ r.Takes bytes (.error e) rest

theorem Reader.Inverts.decodes {α : Type} {r : Reader α} {valid : α → Prop}
    {encode : α → List UInt8} (law : r.Inverts valid encode) {spells : List UInt8 → α → Prop}
    (same : ∀ bytes a, spells bytes a ↔ valid a ∧ bytes = encode a) : r.Decodes spells where
  accepts bytes a rest stands := by
    obtain ⟨fits, rfl⟩ := (same bytes a).1 stands
    exact law.accepts a rest fits
  ends := law.ends
  refuses bytes nonempty other := by
    refine law.refuses bytes nonempty fun a rest fits => ?_
    exact other (encode a) a rest ((same _ a).2 ⟨fits, rfl⟩)

theorem Reader.decodes_boolean : Reader.boolean.Decodes (Kind.boolean.Spells) where
  accepts bytes b rest stands := by
    obtain ⟨flag, rfl, rfl⟩ := Kind.spells_boolean_iff.1 stands
    exact takes_boolean_cons flag rest
  ends := ⟨.boolean, (takes_exactly_closed .boolean (by decide)).map _⟩
  refuses bytes nonempty other := by
    cases bytes with
    | nil => exact absurd rfl nonempty
    | cons flag rest =>
        exact absurd rfl (other [flag] _ rest (Kind.spells_boolean_iff.2 ⟨flag, rfl, rfl⟩))

/-- Every kind of values is read exactly where bytes stand for one. -/
theorem Kind.decodes (k : Kind) : k.read.Decodes k.Spells := by
  cases k with
  | int32 => exact inverts_int32.decodes fun _ _ => spells_iff (by decide)
  | boolean => exact Reader.decodes_boolean
  | string => exact inverts_string.decodes fun _ _ => spells_iff (by decide)
  | blob => exact (inverts_sized .blob).decodes fun _ _ => spells_iff (by decide)

/-- What reading from a pipe comes to. -/
structure Reader.ReadsExactly {α : Type} (r : Reader α) (spells : List UInt8 → α → Prop)
    (p : Pipe) : Prop where
  /-- a value is returned, and its bytes consumed, exactly where bytes that stand for it begin -/
  returns : ∀ a rest, ((r.runOn p).1 = .ok a ∧ (r.runOn p).2.rest = rest) ↔
    ∃ bytes, spells bytes a ∧ p.rest = bytes ++ rest
  /-- the end of the stream is where no byte is left -/
  ended : (∃ item, (r.runOn p).1 = .error (.closed item)) ↔ p.rest = []
  /-- at the end of the stream nothing is consumed -/
  stays : ∀ item, (r.runOn p).1 = .error (.closed item) → (r.runOn p).2.rest = p.rest
  /-- everything else is malformed -/
  malformed : (∃ e, (r.runOn p).1 = .error e ∧ e.isMalformed = true) ↔
    p.rest ≠ [] ∧ ¬ ∃ bytes a rest, spells bytes a ∧ p.rest = bytes ++ rest

/-- One of three things happens: no byte is left, bytes that stand for a value begin, or neither. -/
theorem Reader.Decodes.cases {α : Type} {r : Reader α} {spells : List UInt8 → α → Prop}
    (law : r.Decodes spells) (p : Pipe) :
    (p.rest = [] ∧ (r.runOn p).2.rest = [] ∧ ∃ item, (r.runOn p).1 = .error (.closed item)) ∨
      (∃ bytes a rest, spells bytes a ∧ p.rest = bytes ++ rest ∧
        (r.runOn p).1 = .ok a ∧ (r.runOn p).2.rest = rest) ∨
      (p.rest ≠ [] ∧ (¬ ∃ bytes a rest, spells bytes a ∧ p.rest = bytes ++ rest) ∧
        ∃ e, (r.runOn p).1 = .error e ∧ e.isMalformed = true) := by
  by_cases empty : p.rest = []
  · obtain ⟨item, ends⟩ := law.ends
    obtain ⟨result, left⟩ := ends p empty
    exact .inl ⟨empty, left, item, result⟩
  · by_cases begins : ∃ bytes a rest, spells bytes a ∧ p.rest = bytes ++ rest
    · obtain ⟨bytes, a, rest, stands, begins⟩ := begins
      obtain ⟨result, left⟩ := law.accepts bytes a rest stands p begins
      exact .inr (.inl ⟨bytes, a, rest, stands, begins, result, left⟩)
    · obtain ⟨e, rest, blamed, takes⟩ := law.refuses p.rest empty
        fun bytes a rest stands same => begins ⟨bytes, a, rest, stands, same⟩
      exact .inr (.inr ⟨empty, begins, e, (takes p rfl).1, blamed⟩)

theorem Reader.Decodes.readsExactly {α : Type} {r : Reader α} {spells : List UInt8 → α → Prop}
    (law : r.Decodes spells) (p : Pipe) : r.ReadsExactly spells p where
  returns a rest := by
    constructor
    · rintro ⟨result, rfl⟩
      rcases law.cases p with ⟨-, -, item, closed⟩ |
        ⟨bytes, a', rest', stands, begins, result', rfl⟩ | ⟨-, -, e, failed, -⟩
      · cases closed.symm.trans result
      · cases result'.symm.trans result
        exact ⟨bytes, stands, begins⟩
      · cases failed.symm.trans result
    · rintro ⟨bytes, stands, begins⟩
      exact law.accepts bytes a rest stands p begins
  ended := by
    constructor
    · rintro ⟨item, result⟩
      rcases law.cases p with ⟨empty, -⟩ | ⟨-, a, -, -, -, result', -⟩ | ⟨-, -, e, failed, blamed⟩
      · exact empty
      · cases result'.symm.trans result
      · cases failed.symm.trans result
        cases blamed
    · intro empty
      obtain ⟨item, ends⟩ := law.ends
      exact ⟨item, (ends p empty).1⟩
  stays item result := by
    rcases law.cases p with ⟨empty, left, -⟩ | ⟨-, a, -, -, -, result', -⟩ |
      ⟨-, -, e, failed, blamed⟩
    · rw [left, empty]
    · cases result'.symm.trans result
    · cases failed.symm.trans result
      cases blamed
  malformed := by
    constructor
    · rintro ⟨e, result, blamed⟩
      rcases law.cases p with ⟨-, -, item, closed⟩ | ⟨-, a, -, -, -, result', -⟩ |
        ⟨nonempty, other, -⟩
      · cases closed.symm.trans result
        cases blamed
      · cases result'.symm.trans result
      · exact ⟨nonempty, other⟩
    · rintro ⟨nonempty, other⟩
      rcases law.cases p with ⟨empty, -⟩ | ⟨bytes, a, rest, stands, begins, -⟩ | ⟨-, -, failed⟩
      · exact absurd empty nonempty
      · exact absurd ⟨bytes, a, rest, stands, begins⟩ other
      · exact failed

/-! ## One behind another -/

/-- Writes values one behind another. -/
def writeAll (values : List (Sigma Kind.Content)) : Writer Unit :=
  values.forM fun v => v.1.write v.2

/-- Reads values of some kinds one behind another. -/
def readAll : List Kind → Reader (List (Sigma Kind.Content))
  | [] => return []
  | k :: kinds => do
    let v ← k.read
    return ⟨k, v⟩ :: (← readAll kinds)

/-- The bytes of values that stand one behind another. -/
def valuesBytes (values : List (Sigma Kind.Content)) : List UInt8 :=
  values.flatMap fun v => v.1.bytes v.2

theorem appends_writeAll {values : List (Sigma Kind.Content)} (fits : ∀ v ∈ values, v.1.Fits v.2) :
    ∃ ops, (writeAll values).Appends () ops ∧ ops.flatMap PipeOp.bytes = valuesBytes values := by
  induction values with
  | nil => exact ⟨[], Writer.appends_pure (), rfl⟩
  | cons v values ih =>
      obtain ⟨first, others⟩ := List.forall_mem_cons.1 fits
      obtain ⟨ops, one, bytes⟩ := Kind.appends_write first
      obtain ⟨more, all, rest⟩ := ih others
      refine ⟨ops ++ more, one.bind all, ?_⟩
      rw [List.flatMap_append, bytes, rest]
      rfl

theorem takes_readAll {values : List (Sigma Kind.Content)} (fits : ∀ v ∈ values, v.1.Fits v.2)
    (rest : List UInt8) :
    (readAll (values.map Sigma.fst)).Takes (valuesBytes values ++ rest) (.ok values) rest := by
  induction values with
  | nil => exact Reader.takes_pure [] rest
  | cons v values ih =>
      obtain ⟨first, others⟩ := List.forall_mem_cons.1 fits
      have spelled : v.1.Spells (v.1.bytes v.2) v.2 := .inl (Kind.written_iff.2 ⟨first, rfl⟩)
      have bytes : valuesBytes (v :: values) ++ rest =
          v.1.bytes v.2 ++ (valuesBytes values ++ rest) := by
        rw [valuesBytes, List.flatMap_cons, List.append_assoc]
        rfl
      rw [bytes]
      refine (v.1.decodes.accepts _ _ _ spelled).bind ?_
      exact (ih others).bind (Reader.takes_pure _ rest)

/-- Every value is written exactly if it fits, then as its bytes, and read exactly where bytes stand
for it; and values that fit and were written one behind another are read back in order, with nothing left
over but what stands behind them. -/
theorem values_exact :
    (∀ (k : Kind) (v : k.Content), ((k.write v).operations.1 = .ok () ↔ k.Fits v) ∧
      (k.Fits v → (k.write v).bytes = k.bytes v)) ∧
    (∀ (k : Kind) (p : Pipe), k.read.ReadsExactly k.Spells p) ∧
    ∀ values : List (Sigma Kind.Content), (∀ v ∈ values, v.1.Fits v.2) →
      (writeAll values).operations.1 = .ok () ∧ ∀ (p : Pipe) (rest : List UInt8),
        p.rest = (writeAll values).bytes ++ rest →
          ((readAll (values.map Sigma.fst)).runOn p).1 = .ok values ∧
          ((readAll (values.map Sigma.fst)).runOn p).2.rest = rest := by
  refine ⟨fun k v => ⟨Kind.result_write, Kind.bytes_write⟩, fun k p => k.decodes.readsExactly p, ?_⟩
  intro values fits
  obtain ⟨ops, appends, bytes⟩ := appends_writeAll fits
  refine ⟨by rw [appends.operations], ?_⟩
  intro p rest left
  rw [Writer.bytes, appends.operations, bytes] at left
  exact takes_readAll fits rest p left

/-- A number, a truth value, a string and a blob are read back from a pipe that cuts every read
to one byte. -/
theorem values_exact_piecemeal :
    let values : List (Sigma Kind.Content) :=
      [⟨.int32, (-2 : Int)⟩, ⟨.boolean, true⟩, ⟨.string, "é"⟩, ⟨.blob, [0, 255]⟩]
    ((readAll [.int32, .boolean, .string, .blob]).runOn
      (.ofBytes ((writeAll values).bytes ++ [7]) 1)).1 = .ok values := by
  intro values
  have fits : ∀ v ∈ values, v.1.Fits v.2 := by
    simp only [values, List.forall_mem_cons, Kind.Fits]
    exact ⟨by decide, trivial, by decide +kernel, by decide, List.forall_mem_nil _⟩
  exact ((values_exact.2.2 values fits).2 (.ofBytes _ 1) [7] rfl).1

end PluginBuild.Wire
