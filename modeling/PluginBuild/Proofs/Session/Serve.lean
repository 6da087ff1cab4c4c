/-
# Proofs.Session.Serve -- serving frames is replaying them

Serving a frame that the session gets through is applying it directly and sending its
result (`step_of_frame`).  So serving frames that stand back to back comes to the session
that replaying them comes to, with their results on the other pipe, and goes on with the
bytes behind them (`serve_of_frames`).
-/
import PluginBuild.Proofs.Session.Replay

namespace PluginBuild

set_option autoImplicit false

open PluginBuild.Wire

namespace Connection

variable {α : Type} {compiler : Compiler} {c : Connection}

/-! ## Single steps -/

theorem exists_read {r : Reader α} {x : Except ReadError α} {rest : List UInt8}
    (h : r.Takes c.input.rest x rest) :
    ∃ input, input.rest = rest ∧ read r c = ⟨x.mapError .read, { c with input }, []⟩ := by
  obtain ⟨result, left⟩ := h c.input rfl
  refine ⟨(r.runOn c.input).2, left, ?_⟩
  rw [← result]
  rfl

theorem write_result {r : CompileResult} (fits : r.Fits) :
    write (Writer.result r) c = ⟨.ok (), { c with output := c.output ++ r.ops }, []⟩ := by
  unfold write
  rw [(Writer.appends_result fits.writable).operations]
  rfl

theorem exists_read_string {s : String} {rest : List UInt8} (short : ShortText s)
    (left : c.input.rest = [s].flatMap stringBytes ++ rest) :
    ∃ input, input.rest = rest ∧ read Reader.string c = ⟨.ok s, { c with input }, []⟩ := by
  have takes := inverts_string.accepts s rest short
  rw [List.flatMap_singleton] at left
  rw [← left] at takes
  exact exists_read takes

@[simp] theorem result_act (x : Act Session SessionError α) (c : Connection) :
    (act x c).result = (x c.session).result.mapError .session := rfl

@[simp] theorem state_act (x : Act Session SessionError α) (c : Connection) :
    (act x c).state = { c with session := (x c.session).state } := rfl

/-- The actions that take a string read it and apply it. -/
theorem apply_of_string {x : String → Act Session SessionError α} {s : String} {rest : List UInt8}
    {answer : Option CompileResult} (short : ShortText s)
    (left : c.input.rest = [s].flatMap stringBytes ++ rest)
    (performed : ((x s >>= fun _ => pure none) c.session).result = .ok answer) :
    let o := (do
      let s ← read Reader.string
      let _ ← act (x s)
      return true : Act Connection ServeError Bool) c
    ∃ input, input.rest = rest ∧ o.result = .ok true ∧
      o.state = ⟨((x s >>= fun _ => pure (none : Option CompileResult)) c.session).state, input,
        c.output ++ answer.toList.flatMap CompileResult.ops⟩ := by
  obtain ⟨a, applied, rfl⟩ := Act.result_bind_pure_eq_ok.1 performed
  obtain ⟨input, behind, read⟩ := exists_read_string short left
  refine ⟨input, behind, ?_, ?_⟩
  · simp only [Act.result_bind, read, result_act, applied, mapError_ok]
    rfl
  · simp only [Act.state_bind, read, result_act, state_act, applied, mapError_ok,
      Act.state_pure, Option.toList_none, List.flatMap_nil, List.append_nil]

/-- Applying an action whose strings follow is applying the frame directly. -/
theorem apply_of_frame {f : Frame} (sendable : f.Sendable) {rest : List UInt8}
    (left : c.input.rest = f.payload.flatMap stringBytes ++ rest)
    {answer : Option CompileResult}
    (performed : (Session.perform compiler f c.session).result = .ok answer)
    (fits : ∀ r ∈ answer, r.Fits) :
    ∃ input, input.rest = rest ∧ (apply compiler f.action c).result = .ok (f.action != .finish) ∧
      (apply compiler f.action c).state =
        ⟨(Session.perform compiler f c.session).state, input,
          c.output ++ answer.toList.flatMap CompileResult.ops⟩ := by
  cases action : f.action with
  | addSymbol =>
      obtain ⟨s, short, eq⟩ := sendable.exists_payload (by rw [action]; rfl)
      rw [eq, action] at left performed ⊢
      exact apply_of_string short left performed
  | addSource =>
      obtain ⟨s, short, eq⟩ := sendable.exists_payload (by rw [action]; rfl)
      rw [eq, action] at left performed ⊢
      exact apply_of_string short left performed
  | addReference =>
      obtain ⟨s, short, eq⟩ := sendable.exists_payload (by rw [action]; rfl)
      rw [eq, action] at left performed ⊢
      exact apply_of_string short left performed
  | enableShim =>
      have eq := sendable.eq_bare (by rw [action]; rfl)
      rw [eq, action] at left performed ⊢
      obtain ⟨a, applied, rfl⟩ := Act.result_bind_pure_eq_ok.1 performed
      refine ⟨c.input, left, ?_, ?_⟩
      · simp only [apply, Act.result_bind, result_act, applied, mapError_ok]
        rfl
      · simp only [apply, Act.state_bind_pure, state_act, Frame.bare, Session.perform,
          Option.toList_none, List.flatMap_nil, List.append_nil]
  | compile =>
      have eq := sendable.eq_bare (by rw [action]; rfl)
      rw [eq, action] at left performed ⊢
      obtain ⟨r, applied, rfl⟩ := Act.result_bind_pure_eq_ok.1 performed
      have fit := fits r rfl
      refine ⟨c.input, left, ?_, ?_⟩
      · simp only [apply, Act.result_bind, result_act, applied, mapError_ok,
          write_result fit]
        rfl
      · simp only [apply, Act.state_bind, result_act, state_act, applied, mapError_ok,
          write_result fit, Frame.bare, Session.perform]
        simp
  | finish =>
      have eq := sendable.eq_bare (by rw [action]; rfl)
      rw [eq, action] at left performed ⊢
      cases performed
      exact ⟨c.input, left, rfl, by simp [apply, Session.perform, Frame.bare]⟩

/-- Serving a frame is applying it directly and sending its result. -/
theorem step_of_frame {f : Frame} (sendable : f.Sendable) {rest : List UInt8}
    (left : c.input.rest = f.bytes ++ rest) {answer : Option CompileResult}
    (performed : (Session.perform compiler f c.session).result = .ok answer)
    (fits : ∀ r ∈ answer, r.Fits) :
    ∃ input, input.rest = rest ∧ (step compiler c).result = .ok (f.action != .finish) ∧
      (step compiler c).state =
        ⟨(Session.perform compiler f c.session).state, input,
          c.output ++ answer.toList.flatMap CompileResult.ops⟩ := by
  have code := Reader.takes_action f.action (f.payload.flatMap stringBytes ++ rest)
  rw [← List.append_assoc, ← Frame.bytes, ← left] at code
  obtain ⟨between, behind, read⟩ := exists_read code
  obtain ⟨input, behind', result, state⟩ :=
    apply_of_frame (c := { c with input := between }) sendable behind performed fits
  refine ⟨input, behind', ?_, ?_⟩
  · simp only [step, Act.result_bind, read, mapError_ok, Act.result_log, Act.state_log,
      dispatch, Act.result_handle, result]
  · simp only [step, Act.state_bind, read, mapError_ok, Act.result_log, Act.state_log,
      dispatch, Act.state_handle, result, state]

/-! ## Whole runs -/

theorem serve_of_error {e : ServeError} (h : (step compiler c).result = .error e) :
    (serve compiler c).result = .error e ∧ (serve compiler c).state = (step compiler c).state := by
  rw [serve]
  split
  · next eq =>
    rw [eq] at h ⊢
    cases h
    exact ⟨rfl, rfl⟩
  · next eq => rw [eq] at h; cases h
  · next eq => rw [eq] at h; cases h

theorem serve_of_stop (h : (step compiler c).result = .ok false) :
    (serve compiler c).result = .ok () ∧ (serve compiler c).state = (step compiler c).state := by
  rw [serve]
  split
  · next eq => rw [eq] at h; cases h
  · next eq => rw [eq]; exact ⟨rfl, rfl⟩
  · next eq => rw [eq] at h; cases h

theorem serve_of_goOn (h : (step compiler c).result = .ok true) :
    (serve compiler c).result = (serve compiler (step compiler c).state).result ∧
      (serve compiler c).state = (serve compiler (step compiler c).state).state := by
  rw [serve]
  split
  · next eq => rw [eq] at h; cases h
  · next eq => rw [eq] at h; cases h
  · next eq =>
    have next := congrArg Outcome.state eq
    rw [next]
    exact ⟨rfl, rfl⟩

/-- Serving frames that stand back to back, none of which is the end, is replaying them. -/
theorem serve_of_frames {fs : List Frame} {rest : List UInt8} (accepts : c.session.Accepts fs)
    (handles : c.session.HandlesAll compiler fs) (goesOn : .finish ∉ fs.map Frame.action)
    (left : c.input.rest = framesBytes fs ++ rest) :
    ∃ c' answers, (serve compiler c).result = (serve compiler c').result ∧
      (serve compiler c).state = (serve compiler c').state ∧
      c'.session = (Session.replay compiler fs c.session).state ∧ c'.input.rest = rest ∧
      (Session.replay compiler fs c.session).result = .ok answers ∧
      c'.output = c.output ++ answers.flatMap CompileResult.ops := by
  induction fs generalizing c with
  | nil => exact ⟨c, [], rfl, rfl, rfl, left, rfl, by simp⟩
  | cons f fs ih =>
      obtain ⟨answer, performed, fine, -⟩ := Session.exists_answer accepts.admits handles.1
      rw [framesBytes_cons, List.append_assoc] at left
      obtain ⟨input, behind, result, state⟩ :=
        step_of_frame (accepts.sendable f List.mem_cons_self) left performed
          fun r hr => (fine r hr).1
      have other : (f.action != .finish) = true := by
        rw [bne_iff_ne]
        rintro finish
        exact goesOn (by rw [List.map_cons, finish]; exact List.mem_cons_self)
      rw [other] at result
      obtain ⟨served, servedState⟩ := serve_of_goOn result
      rw [state] at served servedState
      obtain ⟨c', answers, same, sameState, session, behind', replayed, output⟩ :=
        ih (c := ⟨_, input, _⟩) accepts.tail handles.2
          (fun finish => goesOn (List.mem_cons_of_mem _ finish))
          behind
      refine ⟨c', answer.toList ++ answers, served.trans same, servedState.trans sameState, ?_,
        behind', ?_, ?_⟩
      · rw [Session.state_replay_cons performed, session]
      · rw [Session.result_replay_cons performed, replayed]
        rfl
      · rw [output, List.flatMap_append, List.append_assoc]

end Connection

end PluginBuild
