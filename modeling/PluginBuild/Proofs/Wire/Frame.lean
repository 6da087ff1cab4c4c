/-
# Proofs.Wire.Frame -- frames stand back to back

A frame whose strings fit is written as its code followed by its strings
(`operations_action`), and reading takes exactly those bytes (`Reader.takes_frame`).
So frames that stand back to back are told apart without any mark between them: of two
ways to cut frames off the same bytes, one continues the other
(`isPrefix_or_isPrefix_of_bytes`).

Writing refuses a payload of the wrong shape before anything is on the pipe, but a string that
does not fit only behind the code of its action.  So a frame is written whole or not at all
exactly where every string of a payload of the right shape fits (`wroteWhole_iff`).
-/
import PluginBuild.Proofs.Wire.Value

namespace PluginBuild.Wire

set_option autoImplicit false

/-! ## Codes -/

namespace Action

theorem fitsInt32_code (a : Action) : fitsInt32 a.code = true := by cases a <;> rfl

theorem ofCode?_eq_some {code : Int} {a : Action} : ofCode? code = some a ↔ code = a.code := by
  constructor
  · intro found
    have := List.find?_some found
    exact (beq_iff_eq.1 this).symm
  · rintro rfl
    exact ofCode?_code a

/-- The codes from zero to five are those of an action. -/
theorem ofCode?_eq_none {code : Int} : ofCode? code = none ↔ code < 0 ∨ 5 < code := by
  simp only [ofCode?, all, List.find?_eq_none, List.mem_cons, List.not_mem_nil, or_false,
    forall_eq_or_imp, forall_eq, Action.code, beq_iff_eq]
  omega

theorem code_injective {a b : Action} (same : a.code = b.code) : a = b := by
  have := ofCode?_code a
  rw [same, ofCode?_code] at this
  exact (Option.some.inj this).symm

/-- The actions that configure a session. -/
def isConfiguration : Action → Bool
  | .compile | .finish => false
  | _ => true

end Action

namespace Reader

theorem takes_action (a : Action) (rest : List UInt8) :
    action.Takes (int32Bytes a.code ++ rest) (.ok a) rest := by
  refine (inverts_int32.accepts _ rest a.fitsInt32_code).bind ?_
  rw [Action.ofCode?_code]
  exact takes_pure a rest

theorem takes_action_unknown {code : Int} (fits : fitsInt32 code = true)
    (unknown : Action.ofCode? code = none) (rest : List UInt8) :
    action.Takes (int32Bytes code ++ rest) (.error (.unknownAction code)) rest := by
  refine (inverts_int32.accepts _ rest fits).bind ?_
  rw [unknown]
  exact takes_throw _ rest

theorem takes_action_closed : ∃ item, action.Takes [] (.error (.closed item)) [] := by
  obtain ⟨item, ends⟩ := inverts_int32.ends
  exact ⟨item, ends.bind_error _⟩

/-- Bytes that do not start with a number are no code. -/
theorem exists_takes_action_malformed {bytes : List UInt8} (nonempty : bytes ≠ [])
    (other : ∀ code rest, fitsInt32 code = true → bytes ≠ int32Bytes code ++ rest) :
    ∃ e rest, e.isMalformed = true ∧ action.Takes bytes (.error e) rest := by
  obtain ⟨e, rest, malformed, takes⟩ := inverts_int32.refuses bytes nonempty other
  exact ⟨e, rest, malformed, takes.bind_error _⟩

theorem takes_strings (payload : List String) (rest : List UInt8)
    (short : ∀ s ∈ payload, ShortText s) :
    (strings payload.length).Takes (payload.flatMap stringBytes ++ rest) (.ok payload) rest := by
  induction payload with
  | nil => exact takes_pure [] rest
  | cons s payload ih =>
      rw [List.flatMap_cons, List.append_assoc]
      refine (inverts_string.accepts s _ (short s List.mem_cons_self)).bind ?_
      refine (ih fun t ht => short t (List.mem_cons_of_mem _ ht)).bind ?_
      exact takes_pure _ rest

end Reader

/-! ## Frames -/

namespace Frame

/-- The bytes of a frame. -/
def bytes (f : Frame) : List UInt8 := int32Bytes f.action.code ++ f.payload.flatMap stringBytes

/-- Whether a frame can be sent: it has the strings that its action takes, and they fit. -/
structure Sendable (f : Frame) : Prop where
  shaped : f.WellShaped
  short : ∀ s ∈ f.payload, ShortText s

/-- The frame of an action that takes no strings. -/
def bare (a : Action) : Frame := ⟨a, []⟩

theorem sendable_bare {a : Action} (h : a.arity = 0) : (bare a).Sendable :=
  ⟨h.symm, fun _ hs => absurd hs List.not_mem_nil⟩

theorem bytes_bare (a : Action) : (bare a).bytes = int32Bytes a.code := List.append_nil _

/-- The strings of a frame that takes none. -/
theorem Sendable.eq_bare {f : Frame} (h : f.Sendable) (empty : f.action.arity = 0) :
    f = bare f.action := by
  have unloaded : f.payload = [] := List.length_eq_zero_iff.1 (h.shaped.trans empty)
  rw [bare, ← unloaded]

theorem Sendable.exists_payload {f : Frame} (h : f.Sendable) (one : f.action.arity = 1) :
    ∃ s, ShortText s ∧ f = ⟨f.action, [s]⟩ := by
  obtain ⟨s, payload⟩ := List.length_eq_one_iff.1 (h.shaped.trans one)
  refine ⟨s, h.short s (by rw [payload]; exact List.mem_cons_self), ?_⟩
  rw [← payload]

theorem bytes_ne_nil (f : Frame) : f.bytes ≠ [] := List.cons_ne_nil _ _

end Frame

/-- Reading takes a frame off the bytes and nothing behind it. -/
theorem Reader.takes_frame {f : Frame} (h : f.Sendable) (rest : List UInt8) :
    frame.Takes (f.bytes ++ rest) (.ok f) rest := by
  rw [Frame.bytes, List.append_assoc]
  refine (takes_action f.action _).bind ?_
  rw [← h.shaped]
  exact (takes_strings f.payload rest h.short).bind (takes_pure _ rest)

/-- The bytes of a frame tell the frame and where it ends. -/
theorem Frame.Sendable.unique {f g : Frame} {rest rest' : List UInt8} (hf : f.Sendable)
    (hg : g.Sendable) (same : f.bytes ++ rest = g.bytes ++ rest') : f = g ∧ rest = rest' := by
  have one := Reader.takes_frame hf rest
  rw [same] at one
  obtain ⟨value, left⟩ := one.unique (Reader.takes_frame hg rest')
  exact ⟨Except.ok.inj value, left⟩

/-- The bytes of frames that stand back to back. -/
def framesBytes (fs : List Frame) : List UInt8 := fs.flatMap Frame.bytes

theorem framesBytes_cons (f : Frame) (fs : List Frame) :
    framesBytes (f :: fs) = f.bytes ++ framesBytes fs := List.flatMap_cons

theorem framesBytes_append (fs gs : List Frame) :
    framesBytes (fs ++ gs) = framesBytes fs ++ framesBytes gs := List.flatMap_append

theorem framesBytes_singleton (f : Frame) : framesBytes [f] = f.bytes := List.flatMap_singleton _ _

/-- Of two ways to cut frames off the same bytes, one continues the other. -/
theorem isPrefix_or_isPrefix_of_bytes {fs gs : List Frame} {rest rest' : List UInt8}
    (hf : ∀ f ∈ fs, f.Sendable) (hg : ∀ g ∈ gs, g.Sendable)
    (same : framesBytes fs ++ rest = framesBytes gs ++ rest') : fs <+: gs ∨ gs <+: fs := by
  induction fs generalizing gs with
  | nil => exact .inl List.nil_prefix
  | cons f fs ih =>
      cases gs with
      | nil => exact .inr List.nil_prefix
      | cons g gs =>
          simp only [framesBytes_cons, List.append_assoc] at same
          obtain ⟨rfl, left⟩ :=
            (hf f List.mem_cons_self).unique (hg g List.mem_cons_self) same
          simp only [List.prefix_cons_inj]
          exact ih (fun f hf' => hf f (List.mem_cons_of_mem _ hf'))
            (fun g hg' => hg g (List.mem_cons_of_mem _ hg')) left

/-! ## Payloads -/

theorem mapM_text?_eq_some {arguments : List Argument} {payload : List String} :
    arguments.mapM Argument.text? = some payload ↔ arguments = payload.map .text := by
  induction arguments generalizing payload with
  | nil => cases payload <;> simp
  | cons argument arguments ih =>
      cases argument with
      | foreign kind => cases payload <;> simp [List.mapM_cons, Argument.text?]
      | text s =>
          simp only [List.mapM_cons, Argument.text?, Option.pure_def, Option.bind_eq_bind,
            Option.bind_some, Option.bind_eq_some_iff, ih, Option.some.injEq]
          constructor
          · rintro ⟨rest, rfl, rfl⟩
            rfl
          · intro same
            cases payload with
            | nil => cases same
            | cons t payload =>
                cases same
                exact ⟨payload, rfl, rfl⟩

/-- The payloads that an action takes are made of as many strings as it takes. -/
theorem Action.payload?_eq_some {a : Action} {arguments : List Argument} {payload : List String} :
    a.payload? arguments = some payload ↔
      payload.length = a.arity ∧ arguments = payload.map .text := by
  rw [payload?, Option.ite_none_right_eq_some, mapM_text?_eq_some]
  constructor
  · rintro ⟨shaped, rfl⟩
    exact ⟨by rwa [List.length_map] at shaped, rfl⟩
  · rintro ⟨shaped, rfl⟩
    exact ⟨by rwa [List.length_map], rfl⟩

theorem Action.payload?_text (a : Action) {payload : List String} (h : payload.length = a.arity) :
    a.payload? (payload.map Argument.text) = some payload := payload?_eq_some.2 ⟨h, rfl⟩

/-- No action takes more than one string. -/
theorem Action.exists_long {a : Action} {payload : List String} (shaped : payload.length = a.arity)
    (long : ¬∀ s ∈ payload, ShortText s) : ∃ s, payload = [s] ∧ ¬ShortText s := by
  have few : payload.length ≤ 1 := by
    rw [shaped]
    cases a <;> decide
  match payload, few with
  | [], _ => exact absurd (List.forall_mem_nil _) long
  | [s], _ => exact ⟨s, rfl, by simpa using long⟩

/-- The strings that an action takes are those of a frame of the right shape. -/
theorem Action.wellShaped_of_payload? {a : Action} {arguments : List Argument}
    {payload : List String} (h : a.payload? arguments = some payload) :
    (Frame.mk a payload).WellShaped := (payload?_eq_some.1 h).1

theorem Action.mem_of_payload? {a : Action} {arguments : List Argument} {payload : List String}
    {t : String} (h : a.payload? arguments = some payload) (ht : t ∈ payload) :
    Argument.text t ∈ arguments := by
  rw [(payload?_eq_some.1 h).2]
  exact List.mem_map_of_mem ht

/-! ## Writing -/

namespace Writer

variable {α β : Type}

/-- Whatever was done to the pipe before, the writer succeeds and does `ops`. -/
def Appends (w : Writer α) (a : α) (ops : List PipeOp) : Prop :=
  ∀ before, w.run.run before = (.ok a, before ++ ops)

theorem Appends.operations {w : Writer α} {a : α} {ops : List PipeOp} (h : w.Appends a ops) :
    w.operations = (.ok a, ops) := h []

theorem appends_write (bytes : List UInt8) : (write bytes).Appends () [.write bytes] := fun _ => rfl

theorem appends_flush : flush.Appends () [.flush] := fun _ => rfl

theorem appends_pure (a : α) : (pure a : Writer α).Appends a [] := by
  intro before
  rw [List.append_nil]
  rfl

/-- What comes behind a writer that succeeds finds what that has done. -/
theorem Appends.run_bind {w : Writer α} {a : α} {ops : List PipeOp} (h : w.Appends a ops)
    (f : α → Writer β) (before : List PipeOp) :
    (w >>= f).run.run before = (f a).run.run (before ++ ops) := by
  have first : (w.run : StateM _ _).run before = (.ok a, before ++ ops) := h before
  rw [ExceptT.run_bind, StateT.run_bind, first]
  rfl

theorem Appends.bind {w : Writer α} {f : α → Writer β} {a : α} {b : β} {ops more : List PipeOp}
    (h : w.Appends a ops) (h' : (f a).Appends b more) : (w >>= f).Appends b (ops ++ more) := by
  intro before
  rw [h.run_bind, ← List.append_assoc]
  exact h' (before ++ ops)

theorem appends_int32 {n : Int} (fits : fitsInt32 n = true) :
    (int32 n).Appends () [.write (int32Bytes n)] := by
  rw [int32, if_pos fits]
  exact appends_write _

theorem appends_blob {data : List UInt8} (short : Short data) :
    (blob data).Appends () [.write (int32Bytes data.length), .write data] :=
  (appends_int32 short.fitsInt32).bind (appends_write data)

/-- What is done to a pipe to put a string on it. -/
def stringOps (s : String) : List PipeOp :=
  let data := Text.Utf8.encode s.toList
  [.write (int32Bytes data.length), .write data]

theorem bytes_stringOps (s : String) : (stringOps s).flatMap PipeOp.bytes = stringBytes s := by
  simp [stringOps, stringBytes, blobBytes, PipeOp.bytes]

theorem flatMap_stringOps (payload : List String) :
    (payload.flatMap stringOps).flatMap PipeOp.bytes = payload.flatMap stringBytes := by
  induction payload with
  | nil => rfl
  | cons s payload ih =>
      simp only [List.flatMap_cons, List.flatMap_append, bytes_stringOps, ih]

theorem appends_strings {payload : List String} (short : ∀ s ∈ payload, ShortText s) :
    (payload.forM string).Appends () (payload.flatMap stringOps) := by
  induction payload with
  | nil => exact appends_pure ()
  | cons s payload ih =>
      exact (appends_blob (short s List.mem_cons_self)).bind
        (ih fun t ht => short t (List.mem_cons_of_mem _ ht))

/-! ### What cannot be written -/

/-- Whatever was done to the pipe before, the writer fails. -/
def Fails (w : Writer α) : Prop := ∀ before, ∃ e ops, w.run.run before = (.error e, ops)

theorem Fails.bind {w : Writer α} (f : α → Writer β) (h : w.Fails) : (w >>= f).Fails := by
  intro before
  obtain ⟨e, ops, failed⟩ := h before
  have first : (w.run : StateM _ _).run before = (.error e, ops) := failed
  refine ⟨e, ops, ?_⟩
  rw [ExceptT.run_bind, StateT.run_bind, first]
  rfl

/-- A writer fails behind what it has written. -/
theorem Appends.bind_fails {w : Writer α} {f : α → Writer β} {a : α} {ops : List PipeOp}
    (h : w.Appends a ops) (h' : (f a).Fails) : (w >>= f).Fails := by
  intro before
  rw [h.run_bind]
  exact h' (before ++ ops)

/-- Whatever was done to the pipe before, the writer fails and does nothing to it. -/
def Refuses (w : Writer α) (e : WriteError) : Prop :=
  ∀ before, w.run.run before = (.error e, before)

theorem Refuses.fails {w : Writer α} {e : WriteError} (h : w.Refuses e) : w.Fails :=
  fun before => ⟨e, before, h before⟩

theorem Refuses.bind {w : Writer α} {e : WriteError} (h : w.Refuses e) (f : α → Writer β) :
    (w >>= f).Refuses e := by
  intro before
  have first : (w.run : StateM _ _).run before = (.error e, before) := h before
  rw [ExceptT.run_bind, StateT.run_bind, first]
  rfl

theorem refuses_int32 {n : Int} (unfit : ¬fitsInt32 n = true) :
    (int32 n).Refuses (.outOfRange n) := by
  intro before
  rw [int32, if_neg unfit]
  rfl

theorem refuses_blob {data : List UInt8} (long : ¬Short data) :
    (blob data).Refuses (.outOfRange data.length) := by
  refine (refuses_int32 ?_).bind _
  rw [fitsInt32_iff]
  unfold Short at long
  omega

theorem fails_strings {payload : List String} (long : ¬∀ s ∈ payload, ShortText s) :
    (payload.forM string).Fails := by
  induction payload with
  | nil => exact absurd (List.forall_mem_nil _) long
  | cons s payload ih =>
      by_cases short : ShortText s
      · refine (appends_blob short).bind_fails (ih fun others => long ?_)
        exact List.forall_mem_cons.2 ⟨short, others⟩
      · exact (refuses_blob short).fails.bind _

/-! ### Frames on a pipe -/

/-- A payload of the wrong shape is refused before anything is written. -/
theorem refuses_action {a : Action} {arguments : List Argument}
    (misshaped : a.payload? arguments = none) : ∃ e, (action a arguments).Refuses e := by
  rw [action, misshaped]
  exact ⟨_, fun _ => rfl⟩

/-- What is done to a pipe to put a frame on it. -/
def frameOps (f : Frame) : List PipeOp :=
  .write (int32Bytes f.action.code) :: f.payload.flatMap stringOps

theorem bytes_frameOps (f : Frame) : (frameOps f).flatMap PipeOp.bytes = f.bytes := by
  rw [frameOps, List.flatMap_cons, flatMap_stringOps]
  rfl

theorem isWrite_of_mem_frameOps {f : Frame} {op : PipeOp} (among : op ∈ frameOps f) :
    ∃ bytes, op = .write bytes := by
  rcases List.mem_cons.1 among with rfl | among
  · exact ⟨_, rfl⟩
  · obtain ⟨s, -, among⟩ := List.mem_flatMap.1 among
    rcases List.mem_cons.1 among with rfl | among
    · exact ⟨_, rfl⟩
    · exact ⟨_, List.mem_singleton.1 among⟩

theorem appends_action {a : Action} {arguments : List Argument} {payload : List String}
    (shaped : a.payload? arguments = some payload) (short : ∀ s ∈ payload, ShortText s) :
    (action a arguments).Appends () (frameOps ⟨a, payload⟩) := by
  rw [action, shaped]
  exact (appends_int32 a.fitsInt32_code).bind (appends_strings short)

/-- A string that does not fit is refused behind the code of its action. -/
theorem run_action_of_long {a : Action} {arguments : List Argument} {s : String}
    (shaped : a.payload? arguments = some [s]) (long : ¬ShortText s) (before : List PipeOp) :
    (action a arguments).run.run before =
      (.error (.outOfRange (Text.Utf8.encode s.toList).length),
        before ++ [.write (int32Bytes a.code)]) := by
  rw [action, shaped]
  have refuses : ([s].forM string).Refuses (.outOfRange (Text.Utf8.encode s.toList).length) :=
    (refuses_blob long).bind _
  exact ((appends_int32 a.fitsInt32_code).run_bind _ before).trans (refuses _)

/-- A frame that can be sent is put on the pipe whole. -/
theorem operations_action {a : Action} {arguments : List Argument} {payload : List String}
    (shaped : a.payload? arguments = some payload) (short : ∀ s ∈ payload, ShortText s) :
    (action a arguments).operations = (.ok (), frameOps ⟨a, payload⟩) :=
  (appends_action shaped short).operations

theorem operations_action_misshaped {a : Action} {arguments : List Argument}
    (misshaped : a.payload? arguments = none) :
    ∃ e, (action a arguments).operations = (.error e, []) := by
  obtain ⟨e, refuses⟩ := refuses_action misshaped
  exact ⟨e, refuses []⟩

/-- Whether an action, written with this outcome behind what was on the pipe, was written whole
or not at all: a frame was appended that is read back with nothing left over, or writing failed
and appended nothing. -/
def WroteWhole (a : Action) (arguments : List Argument) (before : List PipeOp)
    (o : Except WriteError Unit × List PipeOp) : Prop :=
  (∃ ops payload, o = (.ok (), before ++ ops) ∧ arguments = payload.map .text ∧
      Reader.frame.Takes (ops.flatMap PipeOp.bytes) (.ok ⟨a, payload⟩) []) ∨
    ∃ e, o = (.error e, before)

theorem not_wroteWhole_of_long {a : Action} {arguments : List Argument} {s : String}
    (shaped : a.payload? arguments = some [s]) (long : ¬ShortText s) (before : List PipeOp) :
    ¬WroteWhole a arguments before ((action a arguments).run.run before) := by
  rw [run_action_of_long shaped long]
  rintro (⟨ops, payload, wrote, -⟩ | ⟨e, wrote⟩)
  · cases wrote
  · have same := congrArg Prod.snd wrote
    simp at same

/-- An action is written whole or not at all, unless its payload is of the right shape and a
string in it does not fit.  Then its code alone is left on the pipe. -/
theorem wroteWhole_iff (a : Action) (arguments : List Argument) (before : List PipeOp) :
    let o := (action a arguments).run.run before
    (WroteWhole a arguments before o ↔
        ∀ payload, a.payload? arguments = some payload → ∀ s ∈ payload, ShortText s) ∧
      (¬WroteWhole a arguments before o →
        ∃ size, o = (.error (.outOfRange size), before ++ [.write (int32Bytes a.code)])) := by
  intro o
  cases shaped : a.payload? arguments with
  | none =>
      obtain ⟨e, refuses⟩ := refuses_action shaped
      have whole : WroteWhole a arguments before o := .inr ⟨e, refuses before⟩
      exact ⟨iff_of_true whole nofun, fun cut => absurd whole cut⟩
  | some payload =>
      obtain ⟨length, given⟩ := Action.payload?_eq_some.1 shaped
      by_cases short : ∀ s ∈ payload, ShortText s
      · have whole : WroteWhole a arguments before o := by
          refine .inl ⟨_, payload, appends_action shaped short before, given, ?_⟩
          rw [bytes_frameOps, ← List.append_nil (Frame.bytes _)]
          exact Reader.takes_frame (f := ⟨a, payload⟩) ⟨length, short⟩ []
        refine ⟨iff_of_true whole ?_, fun cut => absurd whole cut⟩
        rintro _ ⟨⟩
        exact short
      · obtain ⟨s, rfl, long⟩ := Action.exists_long length short
        have cut := not_wroteWhole_of_long shaped long before
        exact ⟨iff_of_false cut fun all => short (all _ rfl),
          fun _ => ⟨_, run_action_of_long shaped long before⟩⟩

/-- A source whose path is one byte too long leaves half a frame on an empty pipe. -/
theorem not_wroteWhole_long :
    let path := String.ofList (List.replicate 2147483648 'a')
    let o := (action .addSource [.text path]).run.run []
    ¬WroteWhole .addSource [.text path] [] o ∧ o.2 = [.write [1, 0, 0, 0]] := by
  intro path o
  have shaped : Action.addSource.payload? [.text path] = some [path] := rfl
  have long : ¬ShortText path := fun short =>
    absurd ((shortText_replicate_iff 2147483648).1 short) (Nat.lt_irrefl _)
  exact ⟨not_wroteWhole_of_long shaped long [],
    congrArg Prod.snd (run_action_of_long shaped long [])⟩

end Writer

end PluginBuild.Wire
