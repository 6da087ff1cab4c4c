/-
# Proofs.Session.Replay -- the frames that a session takes

Applying frames to a session directly (`Session.replay`) needs no pipe: it is what a
session driven from the other end of one is measured against.  `Session.Accepts` says
which frames a session takes, from the frames alone, and `Session.HandlesAll` that the
compiler answers on the way; together they make replaying succeed, with results whose
lengths fit (`exists_answers_of_accepts`).

Of the bytes on a pipe, a session takes the longest sequence of whole frames that it
accepts (`Session.Leads`).  There is always one (`exists_leads`), and every other
sequence that the bytes start with is a beginning of it.
-/
import PluginBuild.Proofs.Act
import PluginBuild.Proofs.Wire.Result
import PluginBuild.Session.Serve

namespace PluginBuild

set_option autoImplicit false

open PluginBuild.Wire

/-- Whether a compiler always answers, with results whose lengths fit. -/
structure Compiler.Answers (c : Compiler) : Prop where
  parses : ∀ path options, ∃ unit, (c.parse path options ()).result = .ok unit
  emits : ∀ name units references, ∃ emission result,
    (c.emit name units references ()).result = .ok emission ∧
      Session.resultOf emission = .ok result ∧ result.Fits

/-- The compiler that never finds anything to say. -/
def Compiler.quiet : Compiler where
  parse path options := return ⟨path, path, options, none, []⟩
  emit _ _ _ := return ⟨true, none, []⟩

theorem Compiler.answers_quiet : Compiler.quiet.Answers where
  parses path options := ⟨_, rfl⟩
  emits _ _ _ := by
    have fits : (CompileResult.succeeded []).Fits := ⟨by decide, by decide, by decide⟩
    exact ⟨_, .succeeded [], rfl, rfl, fits⟩

namespace Session

/-! ## Applying frames directly -/

/-- Applies a frame; compiling has a result. -/
def perform (c : Compiler) (f : Frame) : Act Session SessionError (Option CompileResult) :=
  match f.action, f.payload with
  | .addSymbol, [symbol] => do
    addSymbol symbol
    return none
  | .addSource, [path] => do
    let _ ← addSource c path
    return none
  | .addReference, [path] => do
    addReference path
    return none
  | .enableShim, _ => do
    enableShim
    return none
  | .compile, _ => do
    let result ← compile c
    return some result
  | _, _ => return none

/-- Applies frames in order, and collects the results. -/
def replay (c : Compiler) : List Frame → Act Session SessionError (List CompileResult)
  | [] => return []
  | f :: fs => do
    let answer ← perform c f
    let answers ← replay c fs
    return answer.toList ++ answers

/-- Applies frames and then compiles, all without a pipe. -/
def inProcess (c : Compiler) (fs : List Frame) : Act Session SessionError CompileResult := do
  let _ ← replay c fs
  compile c

/-- Whether the compiler gets through a frame: it answers with a unit or with a library or
diagnostics that have messages, and the lengths in the result fit. -/
def Handles (c : Compiler) (s : Session) (f : Frame) : Prop :=
  match f.action, f.payload with
  | .addSource, [path] => ∃ unit, (c.parse path s.options ()).result = .ok unit
  | .compile, _ =>
    ∃ emission result, (c.emit s.name s.units s.references ()).result = .ok emission ∧
      resultOf emission = .ok result ∧ result.Fits
  | _, _ => True

/-- Whether the compiler gets through frames that are applied in order. -/
def HandlesAll (c : Compiler) (s : Session) : List Frame → Prop
  | [] => True
  | f :: fs => Handles c s f ∧ HandlesAll c (perform c f s).state fs

theorem handlesAll_of_answers {c : Compiler} (h : c.Answers) (s : Session) (fs : List Frame) :
    HandlesAll c s fs := by
  induction fs generalizing s with
  | nil => trivial
  | cons f fs ih =>
      refine ⟨?_, ih _⟩
      unfold Handles
      split
      · exact h.parses _ _
      · exact h.emits _ _ _
      · trivial

/-! ## What the steps do to a session -/

variable {c : Compiler} {s : Session}

theorem resultOf_isPlain {e : Emission} {r : CompileResult} (h : resultOf e = .ok r) :
    r.IsPlain := by
  unfold resultOf at h
  split at h
  · cases h
    exact .inl rfl
  · split at h
    · cases h
      exact .inr rfl
    · cases h

/-- What only compiling changes. -/
structure Keeps (s s' : Session) : Prop where
  name : s'.name = s.name
  shim : s'.shim = s.shim
  compiled : s'.compiled = s.compiled

theorem keeps_addReference (path : String) (s : Session) : s.Keeps (addReference path s).state := by
  simp only [addReference, Act.state_modify]
  split <;> exact ⟨rfl, rfl, rfl⟩

theorem keeps_enableShim (s : Session) : s.Keeps (enableShim s).state := by
  simp only [enableShim, Act.state_bind, Act.result_get, Act.state_get]
  cases s.shim with
  | none => exact ⟨rfl, rfl, rfl⟩
  | some path => exact keeps_addReference _ s

theorem keeps_addSource (path : String) (s : Session) : s.Keeps (addSource c path s).state := by
  simp only [addSource, Act.state_bind, Act.result_get, Act.state_get, Act.result_leave,
    Act.state_leave, Act.result_free, Act.result_mapError, Act.state_free]
  cases (c.parse path s.options ()).result <;> exact ⟨rfl, rfl, rfl⟩

theorem result_addSource {path : String} {unit : SourceUnit}
    (parses : (c.parse path s.options ()).result = .ok unit) :
    (addSource c path s).result = .ok unit := by
  simp only [addSource, Act.result_bind, Act.result_get, Act.state_get, Act.result_leave,
    Act.state_leave, Act.result_free, Act.result_mapError, Act.state_free, parses]
  rfl

theorem enableShim_none (h : s.shim = none) :
    (enableShim s).result = .error .noShim ∧ (enableShim s).state = s := by
  simp [enableShim, h]

theorem result_enableShim {path : Path} (h : s.shim = some path) :
    (enableShim s).result = .ok () := by
  simp only [enableShim, Act.result_bind, Act.result_get, Act.state_get, h]
  rfl

theorem compile_again (h : s.compiled = true) :
    (compile c s).result = .error (.alreadyCompiled s.name) := by
  simp [compile, h]

/-- The request to compile is spent, whatever comes of it. -/
theorem state_compile (c : Compiler) (s : Session) :
    (compile c s).state = { s with compiled := true } := by
  simp only [compile, Act.state_bind, Act.result_get, Act.state_get]
  by_cases again : s.compiled = true
  · rw [if_pos again, Act.state_fail, ← again]
  · rw [if_neg again]
    simp only [Act.state_bind, Act.result_modify, Act.state_modify, Act.result_leave,
      Act.state_leave, Act.result_free, Act.state_free, Act.result_mapError]
    cases (c.emit s.name s.units s.references ()).result <;> rfl

theorem result_compile {e : Emission} (h : s.compiled = false)
    (emits : (c.emit s.name s.units s.references ()).result = .ok e) :
    (compile c s).result = resultOf e := by
  simp only [compile, Act.result_bind, Act.result_get, Act.state_get, h]
  simp only [Bool.false_eq_true, if_false, Act.result_bind, Act.result_modify, Act.state_modify,
    Act.result_leave, Act.state_leave, Act.result_free, Act.result_mapError, emits]
  rfl

/-! ## What a frame does to a session -/

theorem perform_compile {f : Frame} (h : f.action = .compile) :
    perform c f = compile c >>= fun result => pure (some result) := by
  obtain ⟨a, payload⟩ := f
  cases h
  rfl

theorem keeps_perform {f : Frame} (h : f.action ≠ .compile) (s : Session) :
    s.Keeps (perform c f s).state := by
  fun_cases perform c f with
  | case1 symbol =>
      rw [Act.state_bind_pure]
      exact ⟨rfl, rfl, rfl⟩
  | case2 path =>
      rw [Act.state_bind_pure]
      exact keeps_addSource path s
  | case3 path =>
      rw [Act.state_bind_pure]
      exact keeps_addReference path s
  | case4 =>
      rw [Act.state_bind_pure]
      exact keeps_enableShim s
  | case5 isCompile => exact absurd isCompile h
  | case6 => exact ⟨rfl, rfl, rfl⟩

theorem state_perform_compile {f : Frame} (h : f.action = .compile) (s : Session) :
    (perform c f s).state = { s with compiled := true } := by
  rw [perform_compile h, Act.state_bind_pure, state_compile]

theorem perform_name (f : Frame) (s : Session) : (perform c f s).state.name = s.name := by
  by_cases h : f.action = .compile
  · rw [state_perform_compile h]
  · exact (keeps_perform h s).name

theorem perform_shim (f : Frame) (s : Session) : (perform c f s).state.shim = s.shim := by
  by_cases h : f.action = .compile
  · rw [state_perform_compile h]
  · exact (keeps_perform h s).shim

/-- Whether a session would not refuse an action where it stands. -/
structure Admits (s : Session) (a : Action) : Prop where
  once : a = .compile → s.compiled = false
  shimmed : a = .enableShim → s.shim ≠ none

theorem admits_of_arity {a : Action} (one : a.arity = 1) : s.Admits a where
  once := by
    rintro rfl
    cases one
  shimmed := by
    rintro rfl
    cases one

theorem admits_enableShim : s.Admits .enableShim ↔ s.shim ≠ none := by
  constructor
  · intro admits
    exact admits.shimmed rfl
  · intro present
    refine ⟨?_, fun _ => present⟩
    intro other
    cases other

theorem admits_compile : s.Admits .compile ↔ s.compiled = false := by
  constructor
  · intro admits
    exact admits.once rfl
  · intro first
    refine ⟨fun _ => first, ?_⟩
    intro other
    cases other

theorem admits_finish (s : Session) : s.Admits .finish := by
  constructor <;> intro other <;> cases other

/-- A frame that a session admits succeeds if the compiler gets through it. -/
theorem exists_answer {f : Frame} (admits : s.Admits f.action) (handles : Handles c s f) :
    ∃ answer, (perform c f s).result = .ok answer ∧ (∀ r ∈ answer, r.Fits ∧ r.IsPlain) ∧
      (f.action ≠ .compile → answer = none) := by
  fun_cases perform c f with
  | case1 symbol => exact ⟨none, rfl, by simp, fun _ => rfl⟩
  | case2 path isPath isSource =>
      simp only [Handles, isPath, isSource] at handles
      obtain ⟨unit, parses⟩ := handles
      refine ⟨none, ?_, by simp, fun _ => rfl⟩
      rw [Act.result_bind_pure, result_addSource parses]
      rfl
  | case3 path => exact ⟨none, rfl, by simp, fun _ => rfl⟩
  | case4 isShim =>
      obtain ⟨path, present⟩ := Option.ne_none_iff_exists'.1 (admits.shimmed isShim)
      refine ⟨none, ?_, by simp, fun _ => rfl⟩
      rw [Act.result_bind_pure, result_enableShim present]
      rfl
  | case5 isCompile =>
      simp only [Handles, isCompile] at handles
      obtain ⟨emission, result, emits, shown, fits⟩ := handles
      refine ⟨some result, ?_, ?_, fun other => absurd isCompile other⟩
      · rw [Act.result_bind_pure, result_compile (admits.once isCompile) emits, shown]
        rfl
      · rintro r ⟨⟩
        exact ⟨fits, resultOf_isPlain shown⟩
  | case6 => exact ⟨none, rfl, by simp, fun _ => rfl⟩

/-! ## The frames that a session accepts -/

/-- Whether a session accepts frames in order: each is a whole frame, compiling is asked for
once, no archive is asked for that is not there, and nothing follows the end. -/
structure Accepts (s : Session) (fs : List Frame) : Prop where
  sendable : ∀ f ∈ fs, f.Sendable
  once : (fs.map Frame.action).count .compile ≤ if s.compiled then 0 else 1
  shimmed : .enableShim ∈ fs.map Frame.action → s.shim ≠ none
  last : .finish ∉ (fs.map Frame.action).dropLast

theorem accepts_nil (s : Session) : s.Accepts [] where
  sendable _ h := absurd h List.not_mem_nil
  once := Nat.zero_le _
  shimmed h := absurd h List.not_mem_nil
  last := List.not_mem_nil

/-- A beginning of frames that are accepted is accepted. -/
theorem Accepts.of_prefix {fs gs : List Frame} (h : s.Accepts fs) (begins : gs <+: fs) :
    s.Accepts gs where
  sendable g hg := h.sendable g (begins.subset hg)
  once := Nat.le_trans ((begins.sublist.map _).count_le _) h.once
  shimmed hg := h.shimmed ((begins.map _).subset hg)
  last finish := by
    obtain ⟨more, rfl⟩ := begins
    refine h.last ?_
    rw [List.map_append]
    cases more with
    | nil => rwa [List.map_nil, List.append_nil]
    | cons f more =>
        rw [List.map_cons, List.dropLast_append_cons]
        exact List.mem_append_left _ (List.dropLast_subset _ finish)

theorem Accepts.admits {f : Frame} {fs : List Frame} (h : s.Accepts (f :: fs)) :
    s.Admits f.action where
  once compiles := by
    have once := h.once
    rw [List.map_cons, compiles, List.count_cons_self] at once
    split at once
    · omega
    · next fresh => exact Bool.eq_false_iff.2 fresh
  shimmed asks := h.shimmed (by rw [List.map_cons, asks]; exact List.mem_cons_self)

theorem Accepts.tail {f : Frame} {fs : List Frame} (h : s.Accepts (f :: fs)) :
    (perform c f s).state.Accepts fs where
  sendable g hg := h.sendable g (List.mem_cons_of_mem _ hg)
  once := by
    have once := h.once
    rw [List.map_cons, List.count_cons] at once
    by_cases compiles : f.action = .compile
    · rw [state_perform_compile compiles]
      rw [compiles, if_pos (beq_self_eq_true _)] at once
      rw [if_pos rfl]
      split at once <;> omega
    · rw [(keeps_perform compiles s).compiled]
      omega
  shimmed asks := by
    rw [perform_shim]
    exact h.shimmed (List.mem_cons_of_mem _ asks)
  last finish := by
    refine h.last ?_
    rw [List.map_cons, List.dropLast_cons_of_ne_nil (by rintro empty; simp [empty] at finish)]
    exact List.mem_cons_of_mem _ finish

/-- Only the last of frames that are accepted is the end. -/
theorem Accepts.exists_of_finish {fs : List Frame} (h : s.Accepts fs)
    (finish : .finish ∈ fs.map Frame.action) :
    ∃ gs f, fs = gs ++ [f] ∧ f.action = .finish ∧ .finish ∉ gs.map Frame.action := by
  rcases List.eq_nil_or_concat fs with rfl | ⟨gs, f, rfl⟩
  · exact absurd finish List.not_mem_nil
  · have last := h.last
    rw [List.concat_eq_append, List.map_append, List.map_singleton] at last finish
    rw [List.dropLast_concat] at last
    refine ⟨gs, f, List.concat_eq_append, ?_, last⟩
    rcases List.mem_append.1 finish with finish | finish
    · exact absurd finish last
    · exact (List.mem_singleton.1 finish).symm

/-- Frames without an end go on with one more frame. -/
theorem Accepts.snoc {fs : List Frame} {f : Frame} (h : s.Accepts fs)
    (goesOn : .finish ∉ fs.map Frame.action) (sendable : f.Sendable)
    (once : f.action = .compile → s.compiled = false ∧ .compile ∉ fs.map Frame.action)
    (shimmed : f.action = .enableShim → s.shim ≠ none) : s.Accepts (fs ++ [f]) where
  sendable g hg := by
    rcases List.mem_append.1 hg with hg | hg
    · exact h.sendable g hg
    · exact List.mem_singleton.1 hg ▸ sendable
  once := by
    rw [List.map_append, List.count_append]
    by_cases compiles : f.action = .compile
    · obtain ⟨fresh, absent⟩ := once compiles
      rw [List.count_eq_zero.2 absent, fresh, List.map_singleton, compiles]
      decide
    · rw [List.map_singleton, List.count_singleton, if_neg (by simpa using compiles)]
      exact h.once
  shimmed asks := by
    rw [List.map_append, List.mem_append] at asks
    rcases asks with asks | asks
    · exact h.shimmed asks
    · exact shimmed (List.mem_singleton.1 asks).symm
  last := by
    rw [List.map_append, List.map_singleton, List.dropLast_concat]
    exact goesOn

/-! ## Replaying -/

theorem state_replay_cons {f : Frame} {fs : List Frame} {answer : Option CompileResult}
    (h : (perform c f s).result = .ok answer) :
    (replay c (f :: fs) s).state = (replay c fs (perform c f s).state).state := by
  simp only [replay, Act.state_bind, h]
  cases (replay c fs (perform c f s).state).result <;> rfl

theorem result_replay_cons {f : Frame} {fs : List Frame} {answer : Option CompileResult}
    (h : (perform c f s).result = .ok answer) :
    (replay c (f :: fs) s).result =
      (replay c fs (perform c f s).state).result.map (answer.toList ++ ·) := by
  simp only [replay, Act.result_bind, h]
  cases (replay c fs (perform c f s).state).result <;> rfl

/-- Replaying frames that are accepted succeeds where the compiler gets through them. -/
theorem exists_answers_of_accepts {fs : List Frame} (accepts : s.Accepts fs)
    (handles : HandlesAll c s fs) :
    ∃ answers, (replay c fs s).result = .ok answers ∧ ∀ r ∈ answers, r.Fits ∧ r.IsPlain := by
  induction fs generalizing s with
  | nil => exact ⟨[], rfl, fun _ h => absurd h List.not_mem_nil⟩
  | cons f fs ih =>
      obtain ⟨answer, performed, fine, -⟩ := exists_answer accepts.admits handles.1
      obtain ⟨answers, replayed, fineAll⟩ := ih accepts.tail handles.2
      refine ⟨answer.toList ++ answers, ?_, ?_⟩
      · rw [result_replay_cons performed, replayed]
        rfl
      · intro r hr
        rcases List.mem_append.1 hr with hr | hr
        · exact fine r (Option.mem_toList.1 hr)
        · exact fineAll r hr

/-- What is left of a session once frames have been replayed. -/
theorem keeps_replay {fs : List Frame} (accepts : s.Accepts fs) (handles : HandlesAll c s fs) :
    (replay c fs s).state.name = s.name ∧ (replay c fs s).state.shim = s.shim ∧
      ((replay c fs s).state.compiled = true ↔
        s.compiled = true ∨ .compile ∈ fs.map Frame.action) := by
  induction fs generalizing s with
  | nil => exact ⟨rfl, rfl, by simp [replay]⟩
  | cons f fs ih =>
      obtain ⟨answer, performed, -, -⟩ := exists_answer accepts.admits handles.1
      obtain ⟨name, shim, compiled⟩ := ih accepts.tail handles.2
      rw [state_replay_cons performed]
      refine ⟨name.trans (perform_name f s), shim.trans (perform_shim f s), ?_⟩
      rw [compiled, List.map_cons, List.mem_cons]
      by_cases compiles : f.action = .compile
      · rw [state_perform_compile compiles]
        simp [compiles]
      · rw [(keeps_perform compiles s).compiled]
        simp [Ne.symm compiles]

theorem replay_append (gs : List Frame) {fs : List Frame} {answers : List CompileResult}
    (h : (replay c fs s).result = .ok answers) :
    (replay c (fs ++ gs) s).result =
        (replay c gs (replay c fs s).state).result.map (answers ++ ·) ∧
      (replay c (fs ++ gs) s).state = (replay c gs (replay c fs s).state).state := by
  induction fs generalizing s answers with
  | nil =>
      cases h
      refine ⟨?_, rfl⟩
      show (replay c gs s).result = (replay c gs s).result.map fun answers => answers
      cases (replay c gs s).result <;> rfl
  | cons f fs ih =>
      cases performed : (perform c f s).result with
      | error e =>
          rw [replay, Act.result_bind, performed] at h
          cases h
      | ok answer =>
          rw [result_replay_cons performed] at h
          cases replayed : (replay c fs (perform c f s).state).result with
          | error e =>
              rw [replayed] at h
              cases h
          | ok rest =>
              rw [replayed] at h
              cases h
              obtain ⟨result, state⟩ := ih replayed
              rw [List.cons_append, result_replay_cons performed, state_replay_cons performed,
                state_replay_cons performed, result, state]
              refine ⟨?_, rfl⟩
              cases (replay c gs (replay c fs (perform c f s).state).state).result with
              | error e => rfl
              | ok more => exact congrArg Except.ok (List.append_assoc ..).symm

/-- Frames that configure a session have no results. -/
theorem result_replay_of_configures {fs : List Frame} (accepts : s.Accepts fs)
    (handles : HandlesAll c s fs) (configures : .compile ∉ fs.map Frame.action) :
    (replay c fs s).result = .ok [] := by
  induction fs generalizing s with
  | nil => rfl
  | cons f fs ih =>
      rw [List.map_cons, List.mem_cons, not_or] at configures
      obtain ⟨answer, performed, -, silent⟩ := exists_answer accepts.admits handles.1
      rw [result_replay_cons performed, ih accepts.tail handles.2 configures.2,
        silent (Ne.symm configures.1)]
      rfl

/-- The request to compile behind them has the result of compiling. -/
theorem result_replay_compile {fs : List Frame} (h : (replay c fs s).result = .ok []) :
    (replay c (fs ++ [.bare .compile]) s).result = (inProcess c fs s).result.map fun r => [r] := by
  rw [(replay_append _ h).1, inProcess, Act.result_bind, h, replay, Act.result_bind,
    perform_compile rfl, Act.result_bind_pure]
  cases (compile c (replay c fs s).state).result <;> rfl

/-- A compiler that gets through frames gets through any beginning of them. -/
theorem handlesAll_of_prefix {fs gs : List Frame} (handles : HandlesAll c s gs)
    (begins : fs <+: gs) : HandlesAll c s fs := by
  obtain ⟨more, rfl⟩ := begins
  induction fs generalizing s with
  | nil => trivial
  | cons f fs ih => exact ⟨handles.1, ih handles.2⟩

/-- Behind frames that a compiler gets through it is told to finish. -/
theorem handlesAll_concat_finish {fs : List Frame} (handles : HandlesAll c s fs) :
    HandlesAll c s (fs ++ [.bare .finish]) := by
  induction fs generalizing s with
  | nil => exact ⟨trivial, trivial⟩
  | cons f fs ih => exact ⟨handles.1, ih handles.2⟩

/-! ## What a session takes off bytes -/

/-- The frames are the longest sequence that the bytes start with and the session accepts. -/
structure Leads (s : Session) (bytes : List UInt8) (fs : List Frame) (rest : List UInt8) :
    Prop where
  split : framesBytes fs ++ rest = bytes
  accepts : s.Accepts fs
  greatest : ∀ gs rest', s.Accepts gs → framesBytes gs ++ rest' = bytes → gs <+: fs

/-- Frames that cannot go on are the longest. -/
theorem leads_of_blocked {fs : List Frame} {rest : List UInt8} (accepts : s.Accepts fs)
    (blocked : ∀ f rest', f.bytes ++ rest' = rest → ¬s.Accepts (fs ++ [f])) :
    s.Leads (framesBytes fs ++ rest) fs rest where
  split := rfl
  accepts := accepts
  greatest gs rest' acceptsOther same := by
    rcases isPrefix_or_isPrefix_of_bytes acceptsOther.sendable accepts.sendable same with h | h
    · exact h
    · obtain ⟨more, rfl⟩ := h
      cases more with
      | nil => simp
      | cons f more =>
          rw [framesBytes_append, List.append_assoc] at same
          have next : f.bytes ++ (framesBytes more ++ rest') = rest := by
            rw [← List.append_cancel_left same, ← List.append_assoc]
            rfl
          refine absurd (acceptsOther.of_prefix ?_) (blocked f _ next)
          exact ⟨more, by rw [List.append_assoc]; rfl⟩

theorem Leads.blocked {bytes rest : List UInt8} {fs : List Frame} (h : s.Leads bytes fs rest)
    {f : Frame} {rest' : List UInt8} (next : f.bytes ++ rest' = rest) : ¬s.Accepts (fs ++ [f]) := by
  intro accepts
  have longer := h.greatest (fs ++ [f]) rest' accepts (by
    rw [framesBytes_append, framesBytes_singleton, List.append_assoc, next, h.split])
  have := longer.length_le
  rw [List.length_append, List.length_singleton] at this
  omega

/-- Behind the longest frames, the session that they lead to admits no further one. -/
theorem Leads.not_admits {bytes rest : List UInt8} {fs : List Frame} (h : s.Leads bytes fs rest)
    (handles : HandlesAll c s fs) (goesOn : .finish ∉ fs.map Frame.action) {f : Frame}
    {rest' : List UInt8} (sendable : f.Sendable) (next : rest = f.bytes ++ rest') :
    ¬(replay c fs s).state.Admits f.action := by
  intro admits
  obtain ⟨-, shim, compiled⟩ := keeps_replay h.accepts handles
  refine h.blocked next.symm (h.accepts.snoc goesOn sendable ?_ ?_)
  · intro compiles
    have fresh := admits.once compiles
    rw [← Bool.not_eq_true, compiled, not_or] at fresh
    exact ⟨Bool.eq_false_iff.2 fresh.1, fresh.2⟩
  · intro asks
    rw [← shim]
    exact admits.shimmed asks

/-- Frames that are accepted are the beginning of the longest ones. -/
theorem exists_leads_from {fs : List Frame} (rest : List UInt8) (accepts : s.Accepts fs) :
    ∃ gs rest', s.Leads (framesBytes fs ++ rest) gs rest' := by
  by_cases goesOn : ∃ f rest', f.bytes ++ rest' = rest ∧ s.Accepts (fs ++ [f])
  · obtain ⟨f, rest', rfl, longer⟩ := goesOn
    have shorter : rest'.length < (f.bytes ++ rest').length := by
      have := List.length_pos_iff.2 f.bytes_ne_nil
      rw [List.length_append]
      omega
    obtain ⟨gs, rest'', leads⟩ := exists_leads_from rest' longer
    rw [framesBytes_append, framesBytes_singleton, List.append_assoc] at leads
    exact ⟨gs, rest'', leads⟩
  · exact ⟨fs, rest, leads_of_blocked accepts fun f rest' next longer =>
      goesOn ⟨f, rest', next, longer⟩⟩
termination_by rest.length

theorem exists_leads (s : Session) (bytes : List UInt8) : ∃ fs rest, s.Leads bytes fs rest :=
  exists_leads_from bytes (accepts_nil s)

theorem Leads.unique {bytes rest rest' : List UInt8} {fs gs : List Frame}
    (h : s.Leads bytes fs rest) (h' : s.Leads bytes gs rest') : fs = gs ∧ rest = rest' := by
  have same : fs = gs :=
    (h'.greatest fs rest h.accepts h.split).eq_of_length_le
      (h.greatest gs rest' h'.accepts h'.split).length_le
  subst same
  exact ⟨rfl, List.append_cancel_left (h.split.trans h'.split.symm)⟩

end Session

end PluginBuild
