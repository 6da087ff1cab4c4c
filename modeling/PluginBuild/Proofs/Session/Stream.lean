/-
# Proofs.Session.Stream -- every stream is accounted for

Where no further frame is accepted, the bytes that are left say why (`Stop`): the stream
has ended, a code is unknown, the session refuses, or the bytes are malformed.  Each stops
serving with an error of its own and leaves the session as it is (`exists_stop`), and no
two of them fit the same bytes (`Stop.of_code`).
-/
import PluginBuild.Proofs.Session.Serve

namespace PluginBuild

set_option autoImplicit false

open PluginBuild.Wire

/-! ## Reasons to stop -/

/-- Whether an error says that the peer broke the protocol, and neither that a code is
unknown nor that the session refuses. -/
def ServeError.isMalformed : ServeError → Bool
  | .read cause => cause.isMalformed
  | .truncatedFrame _ _ => true
  | _ => false

theorem ServeError.isEndOfInput_of_isMalformed {e : ServeError} (h : e.isMalformed = true) :
    e.isEndOfInput = false := by
  cases e with
  | read cause => cases cause <;> first | rfl | cases h
  | truncatedFrame action cause => rfl
  | write cause => cases h
  | session cause => cases h

/-- Whether bytes stop within a code, or do not give the string that the action of their
code takes. -/
def Malformed (bytes : List UInt8) : Prop :=
  bytes ≠ [] ∧ ∀ code tail, fitsInt32 code = true → bytes = int32Bytes code ++ tail →
    ∃ a : Action, a.code = code ∧ a.arity = 1 ∧
      ∀ s tail', ShortText s → tail ≠ stringBytes s ++ tail'

/-- Why a session stops at bytes, with which error, and what is left of them. -/
inductive Stop (s : Session) : List UInt8 → ServeError → List UInt8 → Prop where
  | ended (item : Item) : Stop s [] (.read (.closed item)) []
  | unknown {code : Int} (tail : List UInt8) (fits : fitsInt32 code = true)
      (other : Action.ofCode? code = none) :
      Stop s (int32Bytes code ++ tail) (.read (.unknownAction code)) tail
  | repeated (tail : List UInt8) (compiled : s.compiled = true) :
      Stop s (int32Bytes Action.compile.code ++ tail) (.session (.alreadyCompiled s.name)) tail
  | unshimmed (tail : List UInt8) (absent : s.shim = none) :
      Stop s (int32Bytes Action.enableShim.code ++ tail) (.session .noShim) tail
  | malformed {bytes : List UInt8} {e : ServeError} (tail : List UInt8) (broken : Malformed bytes)
      (blamed : e.isMalformed = true) : Stop s bytes e tail

/-! ## Stopping -/

namespace Connection

variable {α : Type} {compiler : Compiler} {c : Connection}

/-- Serving a code goes on with its action. -/
theorem step_of_code (compiler : Compiler) {a : Action} {tail : List UInt8}
    (left : c.input.rest = int32Bytes a.code ++ tail) :
    ∃ input, input.rest = tail ∧
      (step compiler c).result = (dispatch compiler a { c with input }).result ∧
      (step compiler c).state = (dispatch compiler a { c with input }).state := by
  have code := Reader.takes_action a tail
  rw [← left] at code
  obtain ⟨input, behind, read⟩ := exists_read code
  refine ⟨input, behind, ?_, ?_⟩
  · simp only [step, Act.result_bind, read, mapError_ok, Act.result_log, Act.state_log]
  · simp only [step, Act.state_bind, read, mapError_ok, Act.result_log, Act.state_log]

theorem step_of_no_code (compiler : Compiler) {e : ReadError} {tail : List UInt8}
    (takes : Reader.action.Takes c.input.rest (.error e) tail) :
    (step compiler c).result = .error (.read e) ∧
      ∃ input, input.rest = tail ∧ (step compiler c).state = { c with input } := by
  obtain ⟨input, behind, read⟩ := exists_read takes
  refine ⟨?_, input, behind, ?_⟩
  · simp only [step, Act.result_bind, read, mapError_error]
  · simp only [step, Act.state_bind, read, mapError_error]

theorem dispatch_of_error {a : Action} {e : ServeError}
    (h : (apply compiler a c).result = .error e) :
    (dispatch compiler a c).result =
        .error (if e.isEndOfInput then .truncatedFrame a e.message else e) ∧
      (dispatch compiler a c).state = (apply compiler a c).state := by
  simp only [dispatch, Act.result_handle, Act.state_handle, h, Act.result_fail, Act.state_fail,
    and_self]

/-- The actions that take a string leave everything as it is where there is none. -/
theorem dispatch_of_no_string {x : String → Act Session SessionError α} {a : Action}
    (takes : apply compiler a = (do
      let s ← read Reader.string
      let _ ← act (x s)
      return true))
    (stringless : ∀ s tail, ShortText s → c.input.rest ≠ stringBytes s ++ tail) :
    ∃ e, (dispatch compiler a c).result = .error e ∧ e.isMalformed = true ∧
      (dispatch compiler a c).state.session = c.session ∧
      (dispatch compiler a c).state.output = c.output := by
  by_cases empty : c.input.rest = []
  · obtain ⟨item, closed⟩ := inverts_string.ends
    rw [← empty] at closed
    obtain ⟨input, -, read⟩ := exists_read closed
    have fails : (apply compiler a c).result = .error (.read (.closed item)) := by
      simp only [takes, Act.result_bind, read, mapError_error]
    obtain ⟨result, state⟩ := dispatch_of_error fails
    refine ⟨_, result, rfl, ?_, ?_⟩ <;>
      simp only [state, takes, Act.state_bind, read, mapError_error]
  · obtain ⟨e, rest, malformed, refused⟩ := inverts_string.refuses _ empty stringless
    obtain ⟨input, -, read⟩ := exists_read refused
    have fails : (apply compiler a c).result = .error (.read e) := by
      simp only [takes, Act.result_bind, read, mapError_error]
    obtain ⟨result, state⟩ := dispatch_of_error fails
    rw [ServeError.isEndOfInput_of_isMalformed (e := .read e) malformed] at result
    refine ⟨_, result, malformed, ?_, ?_⟩ <;>
      simp only [state, takes, Act.state_bind, read, mapError_error]

/-- The code of an action that takes no string begins the frame of the action. -/
theorem not_admits_of_code {a : Action} {tail : List UInt8} (bare : a.arity = 0)
    (left : c.input.rest = int32Bytes a.code ++ tail)
    (blocked : ∀ (f : Frame) tail, f.Sendable → c.input.rest = f.bytes ++ tail →
      ¬c.session.Admits f.action) : ¬c.session.Admits a :=
  blocked (.bare a) tail (Frame.sendable_bare bare) (by rw [Frame.bytes_bare, left])

/-- The code of an action that takes a string stops the session where there is none. -/
theorem exists_stop_of_string {x : String → Act Session SessionError α} {a : Action}
    {tail : List UInt8} (one : a.arity = 1)
    (takes : apply compiler a = (do
      let s ← read Reader.string
      let _ ← act (x s)
      return true))
    (left : c.input.rest = int32Bytes a.code ++ tail)
    (blocked : ∀ (f : Frame) tail, f.Sendable → c.input.rest = f.bytes ++ tail →
      ¬c.session.Admits f.action) :
    ∃ e, (step compiler c).result = .error e ∧ (step compiler c).state.session = c.session ∧
      (step compiler c).state.output = c.output ∧
      Stop c.session c.input.rest e (step compiler c).state.input.rest := by
  have stringless : ∀ s tail', ShortText s → tail ≠ stringBytes s ++ tail' := by
    rintro s tail' short rfl
    refine blocked ⟨a, [s]⟩ tail' ⟨one.symm, fun t ht => ?_⟩ ?_ (Session.admits_of_arity one)
    · exact List.mem_singleton.1 ht ▸ short
    · rw [left, Frame.bytes, List.flatMap_singleton, List.append_assoc]
  have broken : Malformed c.input.rest := by
    refine ⟨by rw [left]; exact List.cons_ne_nil _ _, fun code tail' fits same => ?_⟩
    obtain ⟨rfl, rfl⟩ := inverts_int32.unique fits a.fitsInt32_code (same.symm.trans left)
    exact ⟨a, rfl, one, stringless⟩
  obtain ⟨input, rfl, result, state⟩ := step_of_code compiler left
  obtain ⟨e, failed, blamed, session, output⟩ :=
    dispatch_of_no_string (c := { c with input }) takes stringless
  rw [failed] at result
  rw [← state] at session output
  exact ⟨e, result, session, output, .malformed _ broken blamed⟩

/-- The request for the shim stops a session that has none. -/
theorem exists_stop_of_noShim {tail : List UInt8} (absent : c.session.shim = none)
    (left : c.input.rest = int32Bytes Action.enableShim.code ++ tail) :
    ∃ e, (step compiler c).result = .error e ∧ (step compiler c).state.session = c.session ∧
      (step compiler c).state.output = c.output ∧
      Stop c.session c.input.rest e (step compiler c).state.input.rest := by
  obtain ⟨input, rfl, result, state⟩ := step_of_code compiler left
  have fails : (apply compiler .enableShim { c with input }).result =
      .error (.session .noShim) := by
    simp only [apply, Act.result_bind, result_act, (Session.enableShim_none absent).1,
      mapError_error]
  have stays : (apply compiler .enableShim { c with input }).state = { c with input } := by
    simp only [apply, Act.state_bind_pure, state_act, (Session.enableShim_none absent).2]
  obtain ⟨failed, failedState⟩ := dispatch_of_error fails
  rw [failed] at result
  rw [failedState, stays] at state
  rw [left, state]
  exact ⟨_, result, rfl, rfl, .unshimmed _ absent⟩

/-- The request to compile stops a session that has compiled. -/
theorem exists_stop_of_compiled {tail : List UInt8} (compiled : c.session.compiled = true)
    (left : c.input.rest = int32Bytes Action.compile.code ++ tail) :
    ∃ e, (step compiler c).result = .error e ∧ (step compiler c).state.session = c.session ∧
      (step compiler c).state.output = c.output ∧
      Stop c.session c.input.rest e (step compiler c).state.input.rest := by
  obtain ⟨input, rfl, result, state⟩ := step_of_code compiler left
  have fails : (apply compiler .compile { c with input }).result =
      .error (.session (.alreadyCompiled c.session.name)) := by
    simp only [apply, Act.result_bind, result_act, Session.compile_again compiled,
      mapError_error]
  have stays : (apply compiler .compile { c with input }).state = { c with input } := by
    simp only [apply, Act.state_bind, result_act, Session.compile_again compiled,
      mapError_error, state_act, Session.state_compile, ← compiled]
  obtain ⟨failed, failedState⟩ := dispatch_of_error fails
  rw [failed] at result
  rw [failedState, stays] at state
  rw [left, state]
  exact ⟨_, result, rfl, rfl, .repeated _ compiled⟩

/-- Bytes that no admitted frame begins stop a session, and leave it as it is. -/
theorem exists_stop (compiler : Compiler)
    (blocked : ∀ (f : Frame) tail, f.Sendable → c.input.rest = f.bytes ++ tail →
      ¬c.session.Admits f.action) :
    ∃ e, (step compiler c).result = .error e ∧ (step compiler c).state.session = c.session ∧
      (step compiler c).state.output = c.output ∧
      Stop c.session c.input.rest e (step compiler c).state.input.rest := by
  by_cases coded : ∃ code tail, fitsInt32 code = true ∧ c.input.rest = int32Bytes code ++ tail
  · obtain ⟨code, tail, fits, left⟩ := coded
    cases known : Action.ofCode? code with
    | none =>
        have takes := Reader.takes_action_unknown fits known tail
        rw [← left] at takes
        obtain ⟨result, input, rfl, state⟩ := step_of_no_code compiler takes
        rw [state, left]
        exact ⟨_, result, rfl, rfl, .unknown _ fits known⟩
    | some a =>
        obtain rfl := Action.ofCode?_eq_some.1 known
        cases a with
        | addSymbol => exact exists_stop_of_string rfl rfl left blocked
        | addSource => exact exists_stop_of_string rfl rfl left blocked
        | addReference => exact exists_stop_of_string rfl rfl left blocked
        | enableShim =>
            have refused := not_admits_of_code rfl left blocked
            rw [Session.admits_enableShim, ne_eq, Classical.not_not] at refused
            exact exists_stop_of_noShim refused left
        | compile =>
            have refused := not_admits_of_code rfl left blocked
            rw [Session.admits_compile, Bool.not_eq_false] at refused
            exact exists_stop_of_compiled refused left
        | finish =>
            exact absurd (Session.admits_finish _) (not_admits_of_code rfl left blocked)
  · by_cases empty : c.input.rest = []
    · obtain ⟨item, takes⟩ := Reader.takes_action_closed
      rw [← empty] at takes
      obtain ⟨result, input, outcome, state⟩ := step_of_no_code compiler takes
      rw [state, empty]
      simp only [outcome, empty]
      exact ⟨_, result, trivial, trivial, .ended item⟩
    · obtain ⟨e, rest, malformed, takes⟩ := Reader.exists_takes_action_malformed empty
        fun code tail fits same => coded ⟨code, tail, fits, same⟩
      obtain ⟨result, input, rfl, state⟩ := step_of_no_code compiler takes
      rw [state]
      refine ⟨_, result, rfl, rfl, .malformed _ ⟨empty, fun code tail fits same => ?_⟩ malformed⟩
      exact absurd ⟨code, tail, fits, same⟩ coded

end Connection

/-! ## Telling the reasons apart -/

namespace Stop

variable {s : Session} {bytes tail : List UInt8} {e : ServeError}

/-- The code that bytes begin with, if they do, tells why a session stops at them. -/
theorem of_code (h : Stop s bytes e tail) {code : Int} (fits : fitsInt32 code = true)
    (begins : int32Bytes code <+: bytes) :
    (Action.ofCode? code = none ∧ e = .read (.unknownAction code)) ∨
      (code = Action.compile.code ∧ e = .session (.alreadyCompiled s.name)) ∨
      (code = Action.enableShim.code ∧ e = .session .noShim) ∨
      ∃ a : Action, a.code = code ∧ a.arity = 1 := by
  obtain ⟨behind, rfl⟩ := begins
  generalize same : int32Bytes code ++ behind = bytes at h
  cases h with
  | ended item => cases same
  | unknown tail fits' other =>
      obtain ⟨rfl, -⟩ := inverts_int32.unique fits fits' same
      exact .inl ⟨other, rfl⟩
  | repeated tail compiled =>
      obtain ⟨rfl, -⟩ := inverts_int32.unique fits (Action.fitsInt32_code _) same
      exact .inr (.inl ⟨rfl, rfl⟩)
  | unshimmed tail absent =>
      obtain ⟨rfl, -⟩ := inverts_int32.unique fits (Action.fitsInt32_code _) same
      exact .inr (.inr (.inl ⟨rfl, rfl⟩))
  | malformed tail broken blamed =>
      obtain ⟨a, ofCode, one, -⟩ := broken.2 code behind fits same.symm
      exact .inr (.inr (.inr ⟨a, ofCode, one⟩))

theorem isEndOfInput_iff (h : Stop s bytes e tail) : e.isEndOfInput = true ↔ bytes = [] := by
  constructor
  · intro ended
    cases h with
    | ended item => rfl
    | malformed tail broken blamed =>
        rw [ServeError.isEndOfInput_of_isMalformed blamed] at ended
        cases ended
    | _ => cases ended
  · rintro rfl
    generalize empty : ([] : List UInt8) = bytes at h
    cases h with
    | ended item => rfl
    | malformed tail broken blamed => exact absurd empty.symm broken.1
    | _ => cases empty

theorem unknown_iff (h : Stop s bytes e tail) {code : Int} :
    e = .read (.unknownAction code) ↔
      fitsInt32 code = true ∧ (code < 0 ∨ 5 < code) ∧ int32Bytes code <+: bytes := by
  constructor
  · rintro rfl
    cases h with
    | unknown tail fits other =>
        exact ⟨fits, Action.ofCode?_eq_none.1 other, List.prefix_append _ _⟩
    | malformed tail broken blamed => cases blamed
  · rintro ⟨fits, other, begins⟩
    have unknown := Action.ofCode?_eq_none.2 other
    rcases h.of_code fits begins with ⟨-, rfl⟩ | ⟨rfl, -⟩ | ⟨rfl, -⟩ | ⟨a, rfl, -⟩
    · rfl
    · rw [Action.ofCode?_code] at unknown
      cases unknown
    · rw [Action.ofCode?_code] at unknown
      cases unknown
    · rw [Action.ofCode?_code] at unknown
      cases unknown

theorem tail_of_unknown {code : Int} (h : Stop s bytes (.read (.unknownAction code)) tail) :
    bytes = int32Bytes code ++ tail := by
  cases h with
  | unknown tail fits other => rfl
  | malformed tail broken blamed => cases blamed

theorem repeated_iff (h : Stop s bytes e tail) :
    e = .session (.alreadyCompiled s.name) ↔
      s.compiled = true ∧ int32Bytes Action.compile.code <+: bytes := by
  constructor
  · rintro rfl
    cases h with
    | repeated tail compiled => exact ⟨compiled, List.prefix_append _ _⟩
    | malformed tail broken blamed => cases blamed
  · rintro ⟨compiled, begins⟩
    rcases h.of_code (Action.fitsInt32_code _) begins with ⟨other, -⟩ | ⟨-, rfl⟩ | ⟨other, -⟩ |
      ⟨a, same, one⟩
    · cases other
    · rfl
    · cases other
    · cases Action.code_injective same
      cases one

theorem unshimmed_iff (h : Stop s bytes e tail) :
    e = .session .noShim ↔ s.shim = none ∧ int32Bytes Action.enableShim.code <+: bytes := by
  constructor
  · rintro rfl
    cases h with
    | unshimmed tail absent => exact ⟨absent, List.prefix_append _ _⟩
    | malformed tail broken blamed => cases blamed
  · rintro ⟨absent, begins⟩
    rcases h.of_code (Action.fitsInt32_code _) begins with ⟨other, -⟩ | ⟨other, -⟩ | ⟨-, rfl⟩ |
      ⟨a, same, one⟩
    · cases other
    · cases other
    · rfl
    · cases Action.code_injective same
      cases one

/-- Whatever is none of the other reasons is malformed. -/
theorem malformed_iff (h : Stop s bytes e tail) :
    e.isMalformed = true ↔ bytes ≠ [] ∧
      (∀ code, fitsInt32 code = true → code < 0 ∨ 5 < code → ¬int32Bytes code <+: bytes) ∧
      ¬(s.compiled = true ∧ int32Bytes Action.compile.code <+: bytes) ∧
      ¬(s.shim = none ∧ int32Bytes Action.enableShim.code <+: bytes) := by
  constructor
  · intro blamed
    refine ⟨fun empty => ?_, fun code fits other begins => ?_, fun again => ?_, fun absent => ?_⟩
    · have ended := h.isEndOfInput_iff.2 empty
      rw [ServeError.isEndOfInput_of_isMalformed blamed] at ended
      cases ended
    · rw [h.unknown_iff.2 ⟨fits, other, begins⟩] at blamed
      cases blamed
    · rw [h.repeated_iff.2 again] at blamed
      cases blamed
    · rw [h.unshimmed_iff.2 absent] at blamed
      cases blamed
  · rintro ⟨nonempty, known, once, shimmed⟩
    cases h with
    | ended item => exact absurd rfl nonempty
    | unknown tail fits other =>
        exact absurd (List.prefix_append _ _) (known _ fits (Action.ofCode?_eq_none.1 other))
    | repeated tail compiled => exact absurd ⟨compiled, List.prefix_append _ _⟩ once
    | unshimmed tail absent => exact absurd ⟨absent, List.prefix_append _ _⟩ shimmed
    | malformed tail broken blamed => exact blamed

end Stop

/-! ## Whole streams -/

/-- Whether the compiler gets through whatever a session takes off the bytes. -/
def Session.GetsThrough (s : Session) (compiler : Compiler) (bytes : List UInt8) : Prop :=
  ∀ fs rest, s.Leads bytes fs rest → s.HandlesAll compiler fs

namespace Connection

variable {compiler : Compiler} {c : Connection}

/-- What serving comes to, by the frames that a stream starts with and the bytes behind
them. -/
structure Served (compiler : Compiler) (c : Connection) (fs : List Frame) (rest : List UInt8)
    (o : Outcome Connection ServeError Unit) : Prop where
  /-- the session is the one that the frames lead to without a pipe -/
  session : o.state.session = (Session.replay compiler fs c.session).state
  /-- and their results have been sent -/
  output : ∃ answers, (Session.replay compiler fs c.session).result = .ok answers ∧
    o.state.output = c.output ++ answers.flatMap CompileResult.ops
  returns : o.result = .ok () ↔ .finish ∈ fs.map Frame.action
  /-- what stands behind the end is not read -/
  unread : o.result = .ok () → o.state.input.rest = rest
  ends : (∃ e, o.result = .error e ∧ e.isEndOfInput = true) ↔
    .finish ∉ fs.map Frame.action ∧ rest = []
  unknown : ∀ code, o.result = .error (.read (.unknownAction code)) ↔
    .finish ∉ fs.map Frame.action ∧ fitsInt32 code = true ∧ (code < 0 ∨ 5 < code) ∧
      int32Bytes code <+: rest
  /-- of a bad frame only the code is read -/
  unreadUnknown : ∀ code, o.result = .error (.read (.unknownAction code)) →
    rest = int32Bytes code ++ o.state.input.rest
  repeated : o.result = .error (.session (.alreadyCompiled c.session.name)) ↔
    .finish ∉ fs.map Frame.action ∧
      (c.session.compiled = true ∨ .compile ∈ fs.map Frame.action) ∧
      int32Bytes Action.compile.code <+: rest
  unshimmed : o.result = .error (.session .noShim) ↔
    .finish ∉ fs.map Frame.action ∧ c.session.shim = none ∧
      int32Bytes Action.enableShim.code <+: rest
  /-- whatever is none of the above is malformed -/
  malformed : (∃ e, o.result = .error e ∧ e.isMalformed = true) ↔
    .finish ∉ fs.map Frame.action ∧ rest ≠ [] ∧
      (∀ code, fitsInt32 code = true → code < 0 ∨ 5 < code → ¬int32Bytes code <+: rest) ∧
      ¬((c.session.compiled = true ∨ .compile ∈ fs.map Frame.action) ∧
        int32Bytes Action.compile.code <+: rest) ∧
      ¬(c.session.shim = none ∧ int32Bytes Action.enableShim.code <+: rest)

/-- Frames up to the end are served, and nothing behind it is read. -/
theorem served_of_finish {fs : List Frame} {rest : List UInt8}
    (leads : c.session.Leads c.input.rest fs rest)
    (handles : c.session.HandlesAll compiler fs) (finish : .finish ∈ fs.map Frame.action) :
    Served compiler c fs rest (serve compiler c) := by
  obtain ⟨gs, f, rfl, isFinish, goesOn⟩ := leads.accepts.exists_of_finish finish
  have accepts := leads.accepts.of_prefix (List.prefix_append gs [f])
  have handlesFront := Session.handlesAll_of_prefix handles (List.prefix_append gs [f])
  have split := leads.split
  rw [framesBytes_append, framesBytes_singleton, List.append_assoc] at split
  obtain ⟨c', answers, served, servedState, session, left, replayed, output⟩ :=
    serve_of_frames accepts handlesFront goesOn split.symm
  have sendable := leads.accepts.sendable f (List.mem_append_right _ List.mem_cons_self)
  have performed : (Session.perform compiler f c'.session).result = .ok none := by
    rw [sendable.eq_bare (by rw [isFinish]; rfl), isFinish]
    rfl
  obtain ⟨input, behind, result, state⟩ := step_of_frame sendable left performed nofun
  rw [isFinish] at result
  obtain ⟨returned, returnedState⟩ := serve_of_stop result
  have ok : (serve compiler c).result = .ok () := served.trans returned
  rw [state, session] at returnedState
  rw [session] at performed
  obtain ⟨replayedAll, replayedState⟩ := Session.replay_append [f] replayed
  have refuted : ∀ {e}, (serve compiler c).result ≠ .error e := by
    intro e
    rw [ok]
    exact nofun
  refine ⟨?_, ⟨answers, ?_, ?_⟩, ?_, ?_, ?_, ?_, ?_, ?_, ?_, ?_⟩
  · rw [servedState, returnedState, replayedState, Session.state_replay_cons performed]
    rfl
  · rw [replayedAll, Session.result_replay_cons performed]
    exact congrArg Except.ok (List.append_nil _)
  · rw [servedState, returnedState]
    exact (List.append_nil _).trans output
  · exact ⟨fun _ => finish, fun _ => ok⟩
  · intro _
    rw [servedState, returnedState, behind]
  · exact ⟨fun ⟨_, h, _⟩ => absurd h refuted, fun h => absurd finish h.1⟩
  · exact fun _ => ⟨fun h => absurd h refuted, fun h => absurd finish h.1⟩
  · exact fun _ h => absurd h refuted
  · exact ⟨fun h => absurd h refuted, fun h => absurd finish h.1⟩
  · exact ⟨fun h => absurd h refuted, fun h => absurd finish h.1⟩
  · exact ⟨fun ⟨_, h, _⟩ => absurd h refuted, fun h => absurd finish h.1⟩

/-- Frames without an end are served, and the bytes behind them say why serving stops. -/
theorem served_of_stop {fs : List Frame} {rest : List UInt8}
    (leads : c.session.Leads c.input.rest fs rest)
    (handles : c.session.HandlesAll compiler fs) (goesOn : .finish ∉ fs.map Frame.action) :
    Served compiler c fs rest (serve compiler c) := by
  obtain ⟨c', answers, served, servedState, session, left, replayed, output⟩ :=
    serve_of_frames leads.accepts handles goesOn leads.split.symm
  have blocked : ∀ (f : Frame) tail, f.Sendable → c'.input.rest = f.bytes ++ tail →
      ¬c'.session.Admits f.action := by
    intro f tail sendable next
    rw [session]
    exact leads.not_admits handles goesOn sendable (left.symm.trans next)
  obtain ⟨name, shim, compiled⟩ := Session.keeps_replay leads.accepts handles
  rw [← session] at name shim compiled
  obtain ⟨e, stopped, stays, silent, stop⟩ := exists_stop compiler blocked
  obtain ⟨result, state⟩ := serve_of_error stopped
  rw [left] at stop
  have outcome : ∀ e', (serve compiler c).result = .error e' ↔ e = e' := by
    intro e'
    rw [served, result, Except.error.injEq]
  refine ⟨?_, ⟨answers, replayed, ?_⟩, ?_, ?_, ?_, ?_, ?_, ?_, ?_, ?_⟩
  · rw [servedState, state, stays, session]
  · rw [servedState, state, silent, output]
  · rw [served, result]
    exact ⟨nofun, fun finish => absurd finish goesOn⟩
  · rw [served, result]
    exact nofun
  · simp only [outcome, exists_eq_left', stop.isEndOfInput_iff, goesOn, not_false_eq_true, true_and]
  · intro code
    rw [outcome, stop.unknown_iff]
    exact ⟨fun h => ⟨goesOn, h⟩, And.right⟩
  · intro code blamed
    obtain rfl := (outcome _).1 blamed
    rw [servedState, state]
    exact stop.tail_of_unknown
  · rw [outcome, ← name, stop.repeated_iff, compiled]
    exact ⟨fun h => ⟨goesOn, h⟩, And.right⟩
  · rw [outcome, stop.unshimmed_iff, shim]
    exact ⟨fun h => ⟨goesOn, h⟩, And.right⟩
  · simp only [outcome, exists_eq_left', stop.malformed_iff, goesOn, not_false_eq_true, true_and,
      compiled, shim]

/-- Serving a stream has exactly the effect of the longest sequence of frames that it starts
with and the session accepts; how it ends says what stands behind them. -/
theorem exists_served (compiler : Compiler) (c : Connection)
    (healthy : c.session.GetsThrough compiler c.input.rest) :
    ∃ fs rest, c.session.Leads c.input.rest fs rest ∧
      Served compiler c fs rest (serve compiler c) := by
  obtain ⟨fs, rest, leads⟩ := c.session.exists_leads c.input.rest
  have handles := healthy fs rest leads
  by_cases finish : .finish ∈ fs.map Frame.action
  · exact ⟨fs, rest, leads, served_of_finish leads handles finish⟩
  · exact ⟨fs, rest, leads, served_of_stop leads handles finish⟩

/-- A source, the request to compile and the end, with a byte behind it, in single bytes. -/
def piecemeal : Connection where
  session := .fresh (some Session.defaultName) none none
  input := .ofBytes (framesBytes [⟨.addSource, ["a"]⟩, .bare .compile, .bare .finish] ++ [7]) 1
  output := []

theorem exists_served_piecemeal :
    piecemeal.session.GetsThrough .quiet piecemeal.input.rest ∧
      (serve .quiet piecemeal).result = .ok () := by
  have healthy : piecemeal.session.GetsThrough .quiet piecemeal.input.rest :=
    fun fs _ _ => Session.handlesAll_of_answers Compiler.answers_quiet _ fs
  obtain ⟨fs, rest, leads, served⟩ := exists_served .quiet piecemeal healthy
  have accepts : piecemeal.session.Accepts
      [⟨.addSource, ["a"]⟩, .bare .compile, .bare .finish] := by
    refine ⟨?_, by decide, by decide, by decide⟩
    simp only [List.mem_cons, List.not_mem_nil, or_false, forall_eq_or_imp, forall_eq]
    exact ⟨⟨rfl, by decide⟩, Frame.sendable_bare rfl, Frame.sendable_bare rfl⟩
  have begins := leads.greatest _ [7] accepts rfl
  exact ⟨healthy, served.returns.2 ((begins.map _).subset (by decide))⟩

end Connection

end PluginBuild
