/-
# Proofs.Launch.Supervisor -- what each call does to the child

A call gets through to the child only while there is one that listens
(`Supervisor.listener?`).  Each operation on a child has one equation for a child that listens,
by what becomes of the bytes that it writes, and one for none; no later proof opens an operation
again.  Tearing a child down comes to one of four ends (`Child.TearsTo`).
-/
import PluginBuild.Launch.Supervisor
import PluginBuild.Proofs.Act
import PluginBuild.Proofs.Launch.Child

namespace PluginBuild.Supervisor

set_option autoImplicit false

open PluginBuild.Wire

variable {s : Supervisor} {c : Child}

/-- The child, as long as frames can be written to it. -/
def listener? (s : Supervisor) : Option Child :=
  if s.finished then none else s.child.filter Child.inputOpen

theorem listener?_eq_some :
    s.listener? = some c ↔ s.child = some c ∧ s.finished = false ∧ c.inputOpen = true := by
  unfold listener?
  cases s.finished with
  | true => simp
  | false => simp [Option.filter_eq_some_iff]

/-- Why nothing can be written where nobody listens. -/
def refusal (s : Supervisor) : SupervisorError :=
  if s.child.isNone then .notRunning
  else if s.finished then .finishSent
  else .write .closedPipe

theorem refusal_ne_alreadyCompiled (s : Supervisor) : s.refusal ≠ .alreadyCompiled := by
  unfold refusal
  split
  · nofun
  · split <;> nofun

/-- Where nobody listens to a child that has not been told to finish, its input is closed. -/
theorem inputOpen_of_deaf (deaf : s.listener? = none) (child : s.child = some c)
    (finished : s.finished = false) : c.inputOpen = false := by
  rw [← Bool.not_eq_true]
  intro isOpen
  rw [listener?_eq_some.2 ⟨child, finished, isOpen⟩] at deaf
  cases deaf

/-- Nobody listens where the input of the child is closed. -/
theorem listener?_of_closed (child : s.child = some c) (closed : c.inputOpen = false) :
    s.listener? = none := by
  rw [listener?, child, Option.filter_some, closed, if_neg Bool.false_ne_true, ite_self]

/-- The supervisor with another child. -/
def withChild (s : Supervisor) (c : Child) : Supervisor := { s with child := some c }

@[simp] theorem child_withChild (s : Supervisor) (c : Child) : (s.withChild c).child = some c := rfl

@[simp] theorem finished_withChild (s : Supervisor) (c : Child) :
    (s.withChild c).finished = s.finished := rfl

@[simp] theorem compileRequested_withChild (s : Supervisor) (c : Child) :
    (s.withChild c).compileRequested = s.compileRequested := rfl

@[simp] theorem former_withChild (s : Supervisor) (c : Child) :
    (s.withChild c).former = s.former := rfl

theorem withChild_self (child : s.child = some c) : s.withChild c = s := by
  rw [withChild, ← child]

theorem state_change (f : Child → Child) (h : s.child = some c) :
    (change f s).state = s.withChild (f c) := by
  simp [change, h, withChild]

theorem onChild_eq (x : Child.Step Unit) (child : s.child = some c) :
    (onChild x s).result = (x c).result.mapError .ofHalt ∧
      (onChild x s).state = s.withChild (x c).state := by
  simp [onChild, child, withChild]

/-- Of two actions the first of which comes back, both are done, and what goes wrong in the second
hides what went wrong in the first. -/
theorem ensuring_eq {α : Type} {x : Step α} (last : Step Unit)
    (back : (x s).result ≠ .error .never) :
    (ensuring x last s).state = (last (x s).state).state ∧
      (ensuring x last s).result = match (last (x s).state).result with
        | .ok () => (x s).result
        | .error e => .error e := by
  have attempted : ((x.attempt : Step _) s).result = .ok (x s).result := rfl
  rw [ensuring, Act.bind_of_ok attempted]
  generalize (x s).result = result at back ⊢
  have goesOn : ∀ result : Except SupervisorError α,
      ((last >>= fun _ => Act.ofExcept result : Step α) (x s).state).state =
          (last (x s).state).state ∧
        ((last >>= fun _ => Act.ofExcept result : Step α) (x s).state).result =
          match (last (x s).state).result with
          | .ok () => result
          | .error e => .error e := by
    intro result
    constructor
    · rw [Act.state_bind]
      cases (last (x s).state).result <;> rfl
    · rw [Act.result_bind]
      cases (last (x s).state).result <;> rfl
  cases result with
  | ok a => exact goesOn (.ok a)
  | error e =>
      cases e with
      | wait cause =>
          cases cause with
          | endless => exact absurd rfl back
          | notANumber | negative | outOfRange => exact goesOn _
      | _ => exact goesOn _

/-- Behind an action that does not come back nothing is done. -/
theorem ensuring_of_never {α : Type} {x : Step α} (last : Step Unit)
    (stuck : (x s).result = .error .never) :
    (ensuring x last s).result = .error .never ∧ (ensuring x last s).state = (x s).state := by
  have attempted : ((x.attempt : Step _) s).result = .ok (x s).result := rfl
  rw [ensuring, Act.bind_of_ok attempted, stuck]
  exact ⟨rfl, rfl⟩

/-! ## Writing -/

theorem talkingTo_ok (child : s.child = some c) (finished : s.finished = false) :
    (talkingTo s).result = .ok c ∧ (talkingTo s).state = s := by
  simp [talkingTo, child, finished]

theorem talkingTo_refused (h : s.child = none ∨ s.finished = true) :
    (talkingTo s).result = .error s.refusal ∧ (talkingTo s).state = s := by
  unfold refusal
  cases child : s.child with
  | none => simp [talkingTo, child]
  | some c =>
      have finished : s.finished = true := by simpa [child] using h
      simp [talkingTo, child, finished]

/-- A frame is written to a child that listens. -/
theorem writeFrame_eq {a : Action} {arguments : List Argument} {payload : List String}
    (h : s.listener? = some c) (shaped : a.payload? arguments = some payload)
    (short : ∀ t ∈ payload, ShortText t) :
    (writeFrame a arguments s).result = (Child.put ⟨a, payload⟩ c).result.mapError .ofHalt ∧
      (writeFrame a arguments s).state = s.withChild (Child.put ⟨a, payload⟩ c).state := by
  obtain ⟨child, finished, isOpen⟩ := listener?_eq_some.1 h
  obtain ⟨talks, stays⟩ := talkingTo_ok child finished
  obtain ⟨result, state⟩ := onChild_eq (Child.put ⟨a, payload⟩) child
  have written := Writer.operations_action shaped short
  have ops : (Writer.frameOps ⟨a, payload⟩).forM Child.perform = Child.put ⟨a, payload⟩ := rfl
  simp only [writeFrame, Act.result_bind, Act.state_bind, talks, stays, written, isOpen,
    Bool.not_true, Bool.false_eq_true, if_false, ops, result, state]
  cases (Child.put ⟨a, payload⟩ c).result <;> exact ⟨rfl, rfl⟩

/-- Where nobody listens, or where the payload is of the wrong shape, nothing is written. -/
theorem writeFrame_refused (a : Action) (arguments : List Argument)
    (h : s.listener? = none ∨ a.payload? arguments = none) :
    (∃ e, (writeFrame a arguments s).result = .error e) ∧ (writeFrame a arguments s).state = s := by
  by_cases gone : s.child = none ∨ s.finished = true
  · obtain ⟨refused, stays⟩ := talkingTo_refused gone
    simp only [writeFrame, Act.result_bind, Act.state_bind, refused, stays, and_true]
    exact ⟨_, rfl⟩
  · rw [not_or, Bool.not_eq_true] at gone
    obtain ⟨c, child⟩ := Option.ne_none_iff_exists'.1 gone.1
    obtain ⟨talks, stays⟩ := talkingTo_ok child gone.2
    simp only [writeFrame, Act.result_bind, Act.state_bind, talks, stays]
    rcases h with deaf | misshaped
    · have closed := inputOpen_of_deaf deaf child gone.2
      rcases (Writer.action a arguments).operations with ⟨result | result, _ | ⟨op, ops⟩⟩ <;>
        simp [closed]
    · obtain ⟨e, refused⟩ := Writer.operations_action_misshaped misshaped
      simp [refused]

/-- Whatever is written, and however much of it, is the only thing that happens to the child. -/
theorem state_writeFrame (s : Supervisor) (a : Action) (arguments : List Argument) :
    (writeFrame a arguments s).state = s ∨ ∃ c, ∃ ops : List PipeOp, s.listener? = some c ∧
      (writeFrame a arguments s).state = s.withChild (ops.forM Child.perform c).state := by
  by_cases gone : s.child = none ∨ s.finished = true
  · obtain ⟨refused, stays⟩ := talkingTo_refused gone
    left
    simp only [writeFrame, Act.state_bind, refused, stays]
  · rw [not_or, Bool.not_eq_true] at gone
    obtain ⟨c, child⟩ := Option.ne_none_iff_exists'.1 gone.1
    obtain ⟨talks, stays⟩ := talkingTo_ok child gone.2
    have writes (ops : List PipeOp) (result : Except WriteError Unit) :
        ((do onChild (ops.forM Child.perform); Act.ofExcept (result.mapError .write) :
          Step Unit) s).state = s.withChild (ops.forM Child.perform c).state := by
      obtain ⟨-, state⟩ := onChild_eq (ops.forM Child.perform) child
      rw [Act.state_bind, state]
      cases (onChild (ops.forM Child.perform) s).result <;> rfl
    simp only [writeFrame, Act.state_bind, talks, stays]
    cases isOpen : c.inputOpen with
    | false =>
        left
        rcases (Writer.action a arguments).operations with ⟨result | result, _ | ⟨op, ops⟩⟩ <;> rfl
    | true =>
        have listens := listener?_eq_some.2 ⟨child, gone.2, isOpen⟩
        rcases (Writer.action a arguments).operations with ⟨result | result, _ | ⟨op, ops⟩⟩
        · exact .inl rfl
        · exact .inr ⟨c, op :: ops, listens, writes (op :: ops) (.error result)⟩
        · exact .inr ⟨c, [], listens, writes [] (.ok result)⟩
        · exact .inr ⟨c, op :: ops, listens, writes (op :: ops) (.ok result)⟩

/-- An action without strings is written where somebody listens. -/
theorem writeFrame_bare {a : Action} (bare : a.arity = 0) (h : s.listener? = some c) :
    (writeFrame a [] s).result = (Child.put (.bare a) c).result.mapError .ofHalt ∧
      (writeFrame a [] s).state = s.withChild (Child.put (.bare a) c).state := by
  have empty : ([] : List String).length = a.arity := bare.symm
  exact writeFrame_eq h (a.payload?_text empty) nofun

/-- Where nobody listens, an action without strings is refused with the reason for that. -/
theorem writeFrame_bare_refused {a : Action} (bare : a.arity = 0) (deaf : s.listener? = none) :
    (writeFrame a [] s).result = .error s.refusal ∧ (writeFrame a [] s).state = s := by
  refine ⟨?_, (writeFrame_refused a [] (.inl deaf)).2⟩
  by_cases gone : s.child = none ∨ s.finished = true
  · simp only [writeFrame, Act.result_bind, (talkingTo_refused gone).1]
  · rw [not_or, Bool.not_eq_true] at gone
    obtain ⟨c, child⟩ := Option.ne_none_iff_exists'.1 gone.1
    have closed := inputOpen_of_deaf deaf child gone.2
    have empty : ([] : List String).length = a.arity := bare.symm
    have written := Writer.operations_action (a.payload?_text empty)
      fun _ absent => absurd absent List.not_mem_nil
    rw [List.map_nil] at written
    simp [writeFrame, talkingTo, refusal, child, gone.2, closed, written, Writer.frameOps]

/-! ## Sending -/

/-- The frame that an action that configures a session and its arguments make up. -/
def configuration? (a : Action) (arguments : List Argument) : Option Frame :=
  if a.isConfiguration then (a.payload? arguments).map (Frame.mk a) else none

theorem send_eq {a : Action} {arguments : List Argument} {f : Frame} (h : s.listener? = some c)
    (asked : configuration? a arguments = some f) (short : ∀ t ∈ f.payload, ShortText t) :
    (send a arguments s).result = (Child.put f c).result.mapError .ofHalt ∧
      (send a arguments s).state = s.withChild (Child.put f c).state := by
  unfold configuration? at asked
  split at asked
  · next configures =>
    obtain ⟨payload, shaped, rfl⟩ := Option.map_eq_some_iff.1 asked
    cases a <;> first | exact writeFrame_eq h shaped short | cases configures
  · cases asked

theorem send_refused {a : Action} {arguments : List Argument}
    (h : s.listener? = none ∨ configuration? a arguments = none) :
    (∃ e, (send a arguments s).result = .error e) ∧ (send a arguments s).state = s := by
  cases configures : a.isConfiguration with
  | false => cases a <;> first | exact ⟨⟨_, rfl⟩, rfl⟩ | cases configures
  | true =>
      rw [configuration?, configures, if_pos rfl, Option.map_eq_none_iff] at h
      obtain ⟨⟨e, refused⟩, stays⟩ := writeFrame_refused a arguments h
      cases a <;> first | exact ⟨⟨e, refused⟩, stays⟩ | cases configures

/-! ## Compiling and finishing -/

/-- A request is written and delivered, before something else is done. -/
theorem request_eq {α : Type} {a : Action} (bare : a.arity = 0) (h : s.listener? = some c)
    (next : Step α) : let told := Child.tell [.bare a] c
    ((do writeFrame a []; flush; next : Step α) s).result = (match told.result with
        | .ok () => (next (s.withChild told.state)).result
        | .error stop => .error (.ofHalt stop)) ∧
      ((do writeFrame a []; flush; next : Step α) s).state = (match told.result with
        | .ok () => (next (s.withChild told.state)).state
        | .error _ => s.withChild told.state) := by
  intro told
  obtain ⟨child, finished, isOpen⟩ := listener?_eq_some.1 h
  obtain ⟨written, state⟩ := writeFrame_bare bare h
  have unfinished : (s.withChild (Child.put (.bare a) c).state).finished = false := finished
  obtain ⟨talks, stays⟩ := talkingTo_ok (child_withChild s (Child.put (.bare a) c).state) unfinished
  obtain ⟨flushed, state'⟩ :=
    onChild_eq Child.flush (child_withChild s (Child.put (.bare a) c).state)
  simp only [told, Child.tell_singleton, Act.result_bind, Act.state_bind, written, state]
  cases (Child.put (.bare a) c).result with
  | error stop => exact ⟨rfl, rfl⟩
  | ok =>
      have again : (s.withChild (Child.put (.bare a) c).state).withChild
          (Child.flush (Child.put (.bare a) c).state).state =
            s.withChild (Child.flush (Child.put (.bare a) c).state).state := rfl
      simp only [mapError_ok, flush, Act.result_bind, Act.state_bind, talks, stays, flushed, state',
        again]
      cases (Child.flush (Child.put (.bare a) c).state).result <;> exact ⟨rfl, rfl⟩

theorem finish_refused (h : s.listener? = none) :
    (finish s).result = .error s.refusal ∧ (finish s).state = s := by
  obtain ⟨refused, stays⟩ := writeFrame_bare_refused (a := .finish) rfl h
  simp [finish, refused, stays]

/-- The end is told and, where the child takes it, remembered. -/
theorem finish_eq (h : s.listener? = some c) : let told := Child.tell [.bare .finish] c
    (finish s).result = told.result.mapError .ofHalt ∧
      (finish s).state = match told.result with
        | .ok () => { s.withChild told.state with finished := true }
        | .error _ => s.withChild told.state := by
  intro told
  obtain ⟨result, state⟩ := request_eq (a := .finish) rfl h
    (Act.modify fun s => { s with finished := true })
  constructor
  · refine result.trans ?_
    show (match told.result with | .ok () => _ | .error stop => _) = told.result.mapError _
    cases told.result <;> rfl
  · exact state

theorem compile_again (h : s.compileRequested = true) :
    (compile s).result = .error .alreadyCompiled ∧ (compile s).state = s := by
  simp [compile, h]

/-- The request to compile is spent where nobody listens. -/
theorem compile_refused (first : s.compileRequested = false) (h : s.listener? = none) :
    (compile s).result = .error s.refusal ∧
      (compile s).state = { s with compileRequested := true } := by
  let requested : Supervisor := { s with compileRequested := true }
  have deaf : requested.listener? = none := h
  have same : requested.refusal = s.refusal := rfl
  obtain ⟨refused, stays⟩ := writeFrame_bare_refused (a := .compile) rfl deaf
  rw [same] at refused
  simp only [compile, Act.result_bind, Act.result_get, Act.state_bind, Act.state_get, first]
  simp only [Bool.false_eq_true, if_false, Act.result_bind, Act.state_bind, Act.result_modify,
    Act.state_modify]
  rw [refused, stays]
  exact ⟨rfl, rfl⟩

/-- The request is told and, where the child takes it, answered. -/
theorem compile_eq (first : s.compileRequested = false) (h : s.listener? = some c) :
    let told := Child.tell [.bare .compile] c
    let answer := told.state.read Reader.result
    (compile s).result = (match told.result with
        | .ok () => answer.1.mapError .read
        | .error stop => .error (.ofHalt stop)) ∧
      (compile s).state = match told.result with
        | .ok () => { s.withChild answer.2 with compileRequested := true }
        | .error _ => { s.withChild told.state with compileRequested := true } := by
  intro told answer
  let requested : Supervisor := { s with compileRequested := true }
  have listens : requested.listener? = some c := h
  obtain ⟨result, state⟩ := request_eq (a := .compile) rfl listens readResult
  have unasked : (compile s).result = ((do writeFrame .compile []; flush; readResult :
      Step CompileResult) requested).result ∧ (compile s).state =
        ((do writeFrame .compile []; flush; readResult : Step CompileResult) requested).state := by
    simp [compile, first, requested]
  rw [unasked.1, unasked.2]
  exact ⟨result, state⟩

/-! ## Closing -/

/-- All that telling a child the end that is owed can come to. -/
inductive OwesTo (s : Supervisor) (c : Child) : Except SupervisorError Unit → Supervisor → Prop where
  /-- the end has been told -/
  | nothing (finished : s.finished = true) : OwesTo s c (.ok ()) s
  | ended (unfinished : s.finished = false) (ended : c.ended?.isSome = true) :
      OwesTo s c (.ok ()) (s.withChild c.poll)
  | closed (unfinished : s.finished = false) (running : c.ended? = none)
      (shut : c.inputOpen = false) : OwesTo s c (.error (.write .closedPipe)) s
  | told (unfinished : s.finished = false) (running : c.ended? = none)
      (isOpen : c.inputOpen = true) (done : (Child.tell [.bare .finish] c).result = .ok ()) :
      OwesTo s c (.ok ())
        { s.withChild (Child.tell [.bare .finish] c).state with finished := true }
  | refused (unfinished : s.finished = false) (running : c.ended? = none)
      (isOpen : c.inputOpen = true)
      (failed : (Child.tell [.bare .finish] c).result = .error .refused) :
      OwesTo s c (.ok ()) (s.withChild (Child.tell [.bare .finish] c).state)
  /-- the end is never taken -/
  | stuck (unfinished : s.finished = false) (running : c.ended? = none)
      (isOpen : c.inputOpen = true)
      (failed : (Child.tell [.bare .finish] c).result = .error .endless) :
      OwesTo s c (.error .never) (s.withChild (Child.tell [.bare .finish] c).state)

theorem owesTo_finishOwed (child : s.child = some c) :
    OwesTo s c (finishOwed s).result (finishOwed s).state := by
  cases finished : s.finished with
  | true => simpa [finishOwed, finished] using OwesTo.nothing finished
  | false =>
      have polled : (change Child.poll s).state = s.withChild c.poll := state_change _ child
      have asked : (change Child.poll s).result = .ok () := rfl
      have code : (s.withChild c.poll).code = c.ended? := rfl
      simp only [finishOwed, Act.result_bind, Act.state_bind, Act.result_get, Act.state_get,
        finished, Bool.false_eq_true, if_false, asked, polled, code]
      cases ended : c.ended? with
      | some code => exact .ended finished (by rw [ended]; rfl)
      | none =>
          -- asking a child that has not ended has changed nothing
          have same : s.withChild c.poll = s := by
            rw [Child.poll_of_running ended, withChild_self child]
          simp only [Option.isSome_none, Bool.false_eq_true, if_false, Act.result_handle,
            Act.state_handle, same]
          cases isOpen : c.inputOpen with
          | false =>
              have deaf := listener?_of_closed child isOpen
              have refusal : s.refusal = .write .closedPipe := by
                simp [Supervisor.refusal, child, finished]
              obtain ⟨result, state⟩ := finish_refused deaf
              rw [result, state, refusal]
              exact .closed finished ended isOpen
          | true =>
              obtain ⟨result, state⟩ := finish_eq (listener?_eq_some.2 ⟨child, finished, isOpen⟩)
              rw [result, state]
              cases told : (Child.tell [.bare .finish] c).result with
              | ok => exact .told finished ended isOpen told
              | error stop =>
                  cases stop with
                  | refused => exact .refused finished ended isOpen told
                  | endless => exact .stuck finished ended isOpen told

/-- Whatever becomes of the end, nothing changes but the child and that it has been told. -/
theorem finishOwed_keeps (child : s.child = some c) :
    (finishOwed s).state.exitTimeout = s.exitTimeout ∧ (finishOwed s).state.former = s.former ∧
      (finishOwed s).state.compileRequested = s.compileRequested := by
  have owes := owesTo_finishOwed child
  generalize (finishOwed s).result = result at owes
  generalize (finishOwed s).state = s' at owes ⊢
  cases owes <;> exact ⟨rfl, rfl, rfl⟩

/-- Whatever becomes of the end, there is still the child, started as before. -/
theorem exists_child_finishOwed (child : s.child = some c) :
    ∃ c', (finishOwed s).state.child = some c' ∧ c'.behaviour = c.behaviour := by
  have owes := owesTo_finishOwed child
  generalize (finishOwed s).result = result at owes
  generalize (finishOwed s).state = s' at owes ⊢
  have told := (Child.writes_tell [.bare .finish] c).moves.behaviour
  cases owes with
  | nothing finished => exact ⟨c, child, rfl⟩
  | ended unfinished ended => exact ⟨c.poll, rfl, rfl⟩
  | closed unfinished running shut => exact ⟨c, child, rfl⟩
  | told unfinished running isOpen done => exact ⟨_, rfl, told⟩
  | refused unfinished running isOpen failed => exact ⟨_, rfl, told⟩
  | stuck unfinished running isOpen failed => exact ⟨_, rfl, told⟩

/-- Closing the pipes raises nothing, unless what waits for a child that is there and does not read
keeps it from coming back. -/
theorem closePipes_eq (child : s.child = some c) :
    ((Child.closeInput c).result ≠ .error .endless → (closePipes s).result = .ok () ∧
        (closePipes s).state = s.withChild c.closePipes) ∧
      ((Child.closeInput c).result = .error .endless → (closePipes s).result = .error .never ∧
        (closePipes s).state = s.withChild (Child.closeInput c).state) := by
  obtain ⟨result, state⟩ := onChild_eq Child.closeInput child
  simp only [closePipes, Act.result_bind, Act.state_bind, Act.result_handle, Act.state_handle,
    result, state]
  rcases (Child.closeInput c).result with ⟨_ | _⟩ | ⟨⟩
  · exact ⟨fun _ => ⟨rfl, rfl⟩, nofun⟩
  · exact ⟨fun back => absurd rfl back, fun _ => ⟨rfl, rfl⟩⟩
  · exact ⟨fun _ => ⟨rfl, rfl⟩, nofun⟩

end Supervisor

/-- All that tearing a child down can come to, with a limit to the time that it is waited for. -/
inductive Child.TearsTo (c : Child) (limit : Option Nat) :
    Except SupervisorError Unit → Child → Prop where
  /-- what waits is never taken -/
  | stuck (endless : (closeInput c).result = .error .endless) :
      TearsTo c limit (.error .never) (closeInput c).state
  /-- the child never ends, and there is no limit -/
  | awaited (back : (closeInput c).result ≠ .error .endless)
      (lasts : c.closePipes.endsWithin limit = false) (limitless : limit = none) :
      TearsTo c limit (.error .never) c.closePipes
  | ended (back : (closeInput c).result ≠ .error .endless)
      (ends : c.closePipes.endsWithin limit = true) : TearsTo c limit (.ok ()) c.closePipes.poll
  | killed (back : (closeInput c).result ≠ .error .endless)
      (lasts : c.closePipes.endsWithin limit = false) (limited : limit ≠ none) :
      TearsTo c limit (.ok ()) c.closePipes.kill

namespace Supervisor

theorem tearsTo_tearDown (child : s.child = some c) :
    ∃ c', c.TearsTo (patience s.exitTimeout) (tearDown s).result c' ∧
      (tearDown s).state = s.withChild c' := by
  obtain ⟨back, stuck⟩ := closePipes_eq child
  by_cases endless : (Child.closeInput c).result = .error .endless
  · obtain ⟨result, state⟩ := stuck endless
    simp only [tearDown, Act.result_bind, Act.state_bind, result, state]
    exact ⟨_, .stuck endless, rfl⟩
  · obtain ⟨result, state⟩ := back endless
    have same : (s.withChild c.closePipes).exitTimeout = s.exitTimeout := rfl
    simp only [tearDown, Act.result_bind, Act.state_bind, result, state, reap, Act.result_get,
      Act.state_get, same, child_withChild, Option.any_some]
    cases ends : c.closePipes.endsWithin (patience s.exitTimeout) with
    | true => exact ⟨_, .ended endless ends, rfl⟩
    | false =>
        cases limit : patience s.exitTimeout with
        | none =>
            rw [limit] at ends
            exact ⟨_, .awaited endless ends rfl, rfl⟩
        | some most =>
            rw [limit] at ends
            exact ⟨_, .killed endless ends nofun, rfl⟩

theorem close_none (h : s.child = none) : (close s).result = .ok () ∧ (close s).state = s := by
  simp [close, h]

/-- Closing tells the child to finish and tears it down. -/
theorem close_eq (child : s.child = some c) :
    close s = ensuring finishOwed tearDown s := by
  rw [close, Act.bind_of_ok (Act.result_get s)]
  simp [child]

end PluginBuild.Supervisor
