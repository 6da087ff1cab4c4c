/-
# Proofs.Launch.Request -- the request to compile is spent by the first who makes it

That a supervisor has been asked to compile is remembered before it is known whether anybody
listens, so asking spends the request also where nothing can be written (`compile_refused`).  No
other call changes that (`state_keeps`).  Along any calls the request is spent
exactly if one of them asked (`compileRequested_run`), and the one frame that asks is written
exactly if the first who asked found a child that listened (`requests_iff`).
-/
import PluginBuild.Proofs.Launch.Stream

namespace PluginBuild

set_option autoImplicit false

open PluginBuild.Wire

namespace Supervisor

variable {s : Supervisor} {c : Child}

/-! ## Asking -/

/-- A second request is refused as such, and no first one is. -/
theorem compile_eq_alreadyCompiled :
    (compile s).result = .error .alreadyCompiled ↔ s.compileRequested = true := by
  cases first : s.compileRequested with
  | true => exact iff_of_true (compile_again first).1 rfl
  | false =>
      refine iff_of_false ?_ Bool.false_ne_true
      cases listens : s.listener? with
      | none =>
          rw [(compile_refused first listens).1]
          exact fun same => refusal_ne_alreadyCompiled s (Except.error.inj same)
      | some c =>
          rw [(compile_eq first listens).1]
          rcases (Child.tell [.bare .compile] c).result with (_ | _) | ⟨⟩
          · nofun
          · nofun
          · cases ((Child.tell [.bare .compile] c).state.read Reader.result).1 <;> nofun

/-! ## Who has asked -/

end Supervisor

/-- The one frame that asks is written by the first who asks, where somebody listens. -/
theorem Call.requests_iff (call : Call) (s : Supervisor) :
    .bare .compile ∈ call.written s ↔
      call = .compile ∧ s.compileRequested = false ∧ s.listener?.isSome = true := by
  unfold Call.written
  cases s.listener?.isSome with
  | false => simp
  | true =>
      cases call with
      | compile => cases first : s.compileRequested <;> simp [Call.frame?, first]
      | start files l => simp [Call.frame?]
      | finish => simp [Call.frame?, Frame.bare]
      | close =>
          cases ended : s.child.any fun c => c.ended?.isSome <;>
            simp [Call.frame?, ended, Frame.bare]
      | send a arguments =>
          suffices Supervisor.configuration? a arguments ≠ some (.bare .compile) by
            simpa [Call.frame?] using this
          intro asks
          obtain ⟨configures, shaped⟩ := Option.ite_none_right_eq_some.1 asks
          obtain ⟨payload, -, same⟩ := Option.map_eq_some_iff.1 shaped
          cases same
          cases configures

namespace Supervisor

/-- Along any calls the request is spent exactly if one of them asked. -/
theorem compileRequested_run (s : Supervisor) (calls : List Call) :
    (s.run calls).compileRequested = true ↔ s.compileRequested = true ∨ .compile ∈ calls := by
  induction calls generalizing s with
  | nil => simp [run]
  | cons call calls ih =>
      show ((call.state s).run calls).compileRequested = true ↔ _
      rw [ih, (state_keeps call s).2, List.mem_cons, or_assoc, @eq_comm _ call]

/-- The frame that asks is written exactly if the first who asked was heard. -/
theorem requests_iff (s : Supervisor) (calls : List Call) :
    .bare .compile ∈ s.written calls ↔ ∃ before after, calls = before ++ .compile :: after ∧
      (s.run before).compileRequested = false ∧ (s.run before).listener?.isSome = true := by
  induction calls generalizing s with
  | nil => simp [written]
  | cons call calls ih =>
      rw [written, List.mem_append, call.requests_iff, ih]
      constructor
      · rintro (⟨rfl, first, heard⟩ | ⟨before, after, rfl, first, heard⟩)
        · exact ⟨[], calls, rfl, first, heard⟩
        · exact ⟨call :: before, after, rfl, first, heard⟩
      · rintro ⟨_ | ⟨call', before⟩, after, same, first, heard⟩
        · obtain ⟨rfl, -⟩ := List.cons.inj same
          exact .inl ⟨rfl, first, heard⟩
        · obtain ⟨rfl, rfl⟩ := List.cons.inj same
          exact .inr ⟨before, after, rfl, first, heard⟩

/-- Whatever was called before: asking to compile is refused as a second time exactly if it has
been asked before, and then changes nothing.  The one frame that asks has been written exactly
if the first who asked found a child that listened.  The first who asks and finds none is told
why and spends the request; who finds one gets the answer of that child, as long as it takes
what it is told. -/
theorem compile_spends (helper : Path) (platform : Platform)
    (readyTimeout exitTimeout : Number.Binary64) (calls : List Call) :
    let s₀ := fresh helper platform readyTimeout exitTimeout
    let s := s₀.run calls
    let o := compile s
    (o.result = .error .alreadyCompiled ↔ .compile ∈ calls) ∧
    (.compile ∈ calls → o.state = s) ∧
    (.bare .compile ∈ s₀.written calls ↔ ∃ before after, calls = before ++ .compile :: after ∧
      .compile ∉ before ∧ (s₀.run before).listener?.isSome = true) ∧
    (.compile ∉ calls → s.listener? = none →
      o.result = .error s.refusal ∧ o.state = { s with compileRequested := true }) ∧
    ∀ c, .compile ∉ calls → s.listener? = some c →
      let told := Child.tell [.bare .compile] c
      let answer := told.state.read Reader.result
      o.result = (match told.result with
          | .ok () => answer.1.mapError .read
          | .error stop => .error (.ofHalt stop)) ∧
        o.state = match told.result with
          | .ok () => { s.withChild answer.2 with compileRequested := true }
          | .error _ => { s.withChild told.state with compileRequested := true } := by
  intro s₀ s o
  have spent (calls : List Call) : (s₀.run calls).compileRequested = true ↔ .compile ∈ calls := by
    rw [compileRequested_run]
    exact or_iff_right nofun
  have unspent {calls : List Call} (unasked : .compile ∉ calls) :
      (s₀.run calls).compileRequested = false :=
    Bool.eq_false_iff.2 fun asked => unasked ((spent calls).1 asked)
  refine ⟨compile_eq_alreadyCompiled.trans (spent calls),
    fun asked => (compile_again ((spent calls).2 asked)).2, ?_,
    fun unasked deaf => compile_refused (unspent unasked) deaf,
    fun c unasked listens => compile_eq (unspent unasked) listens⟩
  rw [requests_iff]
  refine exists_congr fun before => exists_congr fun after => and_congr_right fun _ =>
    and_congr_left fun _ => ?_
  rw [← spent before, Bool.not_eq_true]

/-- A child that has its answer ready and reads everything. -/
def answeringBehaviour (r : CompileResult) : Behaviour :=
  { startError := none, readiness := .signals, deaf := false, program := .script r.bytes 0 none true }

/-- What starts it. -/
def answeringLauncher (r : CompileResult) : Launcher :=
  { quietLauncher with behaviour := fun _ => answeringBehaviour r }

theorem read_answering {r : CompileResult} (fits : r.Fits) (plain : r.IsPlain)
    (arguments : List String) :
    let told := Child.tell [.bare .compile] (.fresh arguments (answeringBehaviour r))
    told.result = .ok () ∧ (told.state.read Reader.result).1 = .ok r := by
  intro told
  have writes : Child.Writes _ _ told := Child.writes_tell [.bare .compile] _
  have eager : (Child.fresh arguments (answeringBehaviour r)).Eager
      (framesBytes [.bare .compile]) := ⟨rfl, fun _ _ => rfl, fun _ _ _ _ => rfl, rfl, rfl, rfl⟩
  have output : told.state.status.output = r.bytes ++ [] := by
    rw [List.append_nil, Child.status, writes.moves.behaviour]
    rfl
  exact ⟨(Child.goes_tell [.bare .compile] _ _ eager List.prefix_rfl).1,
    Child.read_result writes.moves.outputRead output fits plain⟩

/-- A call that is refused before there is a child takes nothing from who asks first. -/
theorem compile_spends_answered :
    let answer := CompileResult.succeeded [5, 6]
    let s₀ := fresh quietPath .linux Settings.defaultTimeout defaultExitTimeout
    let calls := [.finish, .start quietFiles (answeringLauncher answer)]
    (finish s₀).result = .error .notRunning ∧ (compile (s₀.run calls)).result = .ok answer := by
  intro answer s₀ calls
  obtain ⟨refused, stays⟩ := finish_refused (s := s₀) rfl
  obtain ⟨-, arguments, state, -⟩ := exists_fresh_of_start
    (start_quietly (answeringBehaviour answer) rfl rfl defaultExitTimeout)
  let c := Child.fresh arguments (answeringBehaviour answer)
  have left : s₀.run calls = s₀.withChild c := by
    show (start quietFiles (answeringLauncher answer) (finish s₀).state).state = _
    rw [stays]
    exact state
  have listens : (s₀.run calls).listener? = some c := by
    rw [left]
    rfl
  obtain ⟨-, -, -, -, heard⟩ := compile_spends quietPath .linux Settings.defaultTimeout
    defaultExitTimeout calls
  have asked := (heard c (by simp [calls]) listens).1
  have fits : answer.Fits := ⟨by decide, by decide, List.forall_mem_nil _⟩
  obtain ⟨takes, answered⟩ := read_answering fits (.inl rfl) arguments
  simp only [c, takes, answered] at asked
  exact ⟨refused, asked⟩

/-- A helper that is asked before it is started can never be asked again, although nobody has
ever been sent the request. -/
theorem compile_unheard_spends :
    let s₀ := fresh quietPath .linux Settings.defaultTimeout defaultExitTimeout
    let calls := [.compile, .start quietFiles quietLauncher]
    (compile s₀).result = .error .notRunning ∧ (s₀.run calls).listener?.isSome = true ∧
      s₀.written calls = [] ∧ (compile (s₀.run calls)).result = .error .alreadyCompiled := by
  intro s₀ calls
  obtain ⟨refused, state⟩ := compile_refused (s := s₀) rfl rfl
  have started : (start quietFiles quietLauncher (compile s₀).state).result = .ok () := by
    rw [state]
    exact start_of_signals rfl exists_quietPath command_quiet rfl patient_default rfl rfl
  obtain ⟨-, arguments, state', -⟩ := exists_fresh_of_start started
  have left : s₀.run calls = (compile s₀).state.withChild
      (.fresh arguments (quietLauncher.behaviour quietFiles)) := state'
  have unwritten : s₀.written calls = [] := by
    simp [calls, written, Call.written, Call.frame?, s₀, fresh, listener?]
  refine ⟨refused, ?_, unwritten, ?_⟩
  · rw [left, state]
    rfl
  · rw [left]
    exact (compile_again ((state_keeps .compile s₀).2.2 (.inr rfl))).1

end Supervisor

end PluginBuild
