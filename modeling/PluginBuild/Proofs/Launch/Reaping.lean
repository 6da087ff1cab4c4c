/-
# Proofs.Launch.Reaping -- whatever was called before, closing leaves no child behind

A child is attended as long as both pipes to it are open, or both are closed and its exit code is
known or is still waited for (`Child.IsAttended`).  Every call keeps it so (`Attends.step`,
`Attends.run`), also one that writes half a frame, gives a child up or does not come back.  So a
child that can no longer be written to has ended, and telling it to finish never fails where that
is still owed.

Closing then raises nothing (`Attends.closesTo`).  The child is waited for with both pipes closed,
keeps its exit code if it has ended by itself within the limit, and is killed only if it has not;
closing again changes nothing (`close_reaps_any`).  The limit is one to the wait for the end: what
is owed to a child is written before, and to one that never takes that it is never said.
-/
import PluginBuild.Proofs.Launch.Stream
import PluginBuild.Proofs.Launch.Teardown

namespace PluginBuild

set_option autoImplicit false

open PluginBuild.Wire

/-! ## Children that are attended -/

namespace Child

variable {c c' : Child} {finished : Bool} {limit : Option Nat}

/-- Whether both pipes to a child are open, or both are closed and its exit code is known or waited
for without a limit; whether nothing waits for it once it has been told to finish; and whether it
has kept nobody waiting for ever unless it is one that may. -/
structure IsAttended (c : Child) (finished : Bool) (limit : Option Nat) : Prop where
  pipes : (c.inputOpen = true ∧ c.outputOpen = true) ∨
    (c.inputOpen = false ∧ c.outputOpen = false ∧
      (c.code.isSome = true ∨ limit = none ∧ c.ended? = none))
  told : finished = true → c.buffer = []
  returns : ¬c.behaviour.Stalls → c.stop ≠ some .endless

theorem isAttended_fresh (arguments : List String) (b : Behaviour) :
    (fresh arguments b).IsAttended finished limit where
  pipes := .inl ⟨rfl, rfl⟩
  told _ := rfl
  returns _ := nofun

/-- Nobody writes to a child but while its input is open. -/
theorem IsAttended.writes {finished' : Bool} {bytes : List UInt8} {o : Outcome Child Halt Unit}
    (h : c.IsAttended finished limit) (isOpen : c.inputOpen = true) (writes : Writes bytes c o)
    (told : finished' = true → o.state.buffer = []) : o.state.IsAttended finished' limit where
  pipes := by
    rcases h.pipes with ⟨input, output⟩ | ⟨input, -⟩
    · exact .inl ⟨writes.moves.inputOpen.trans input, writes.moves.outputOpen.trans output⟩
    · rw [isOpen] at input
      cases input
  told := told
  returns reads := by
    rw [writes.moves.behaviour] at reads
    exact writes.returns reads (h.returns reads)

theorem IsAttended.read (h : c.IsAttended finished limit) (outputRead : Nat) :
    { c with outputRead := outputRead }.IsAttended finished limit := ⟨h.pipes, h.told, h.returns⟩

theorem IsAttended.poll (h : c.IsAttended finished limit) (ended : c.ended?.isSome = true) :
    c.poll.IsAttended finished limit where
  pipes := h.pipes.imp_right fun ⟨input, output, _⟩ => ⟨input, output, .inl ended⟩
  told := h.told
  returns := h.returns

/-- Closing the pipes of a child that is attended keeps nobody waiting for ever, if the child has
been told to finish or is not one that may. -/
theorem IsAttended.closeInput_ne_endless (h : c.IsAttended finished limit)
    (may : finished = true ∨ ¬c.behaviour.Stalls) :
    (Child.closeInput c).result ≠ .error .endless := by
  intro endless
  rcases may with told | reads
  · exact Child.closeInput_ne_endless (.inl (h.told told)) endless
  · rcases c.closeInput_cases with ⟨-, result, -⟩ | ⟨-, result, -⟩
    · rw [result] at endless
      cases endless
    · have stop := ((writes_flush c).fails .endless (result.symm.trans endless)).1
      exact (writes_flush c).returns reads (h.returns reads) stop

theorem IsAttended.closeInput (h : c.IsAttended finished limit)
    (endless : (Child.closeInput c).result = .error .endless) :
    (Child.closeInput c).state.IsAttended finished limit := by
  have told : finished ≠ true := fun told => h.closeInput_ne_endless (.inl told) endless
  rcases c.closeInput_cases with ⟨-, result, -⟩ | ⟨isOpen, result, ⟨-, state⟩ | ⟨back, -⟩⟩
  · rw [result] at endless
    cases endless
  · rw [state]
    exact h.writes isOpen (writes_flush c) fun finishes => absurd finishes told
  · exact absurd (result.symm.trans endless) back

/-- A child with both pipes closed is attended if its exit code is known or waited for. -/
theorem IsAttended.closePipes (h : c.IsAttended finished limit)
    (back : (Child.closeInput c).result ≠ .error .endless)
    (behaviour : c'.behaviour = c.closePipes.behaviour) (input : c'.inputOpen = c.closePipes.inputOpen)
    (output : c'.outputOpen = false) (buffer : c'.buffer = c.closePipes.buffer)
    (stop : c'.stop = c.closePipes.stop)
    (waits : c'.code.isSome = true ∨ limit = none ∧ c'.ended? = none) :
    c'.IsAttended finished limit where
  pipes := .inr ⟨input.trans (inputOpen_closePipes back), output, waits⟩
  told told := by rw [buffer, closePipes_of_empty (h.told told), h.told told]
  returns reads := by
    have reads : ¬c.behaviour.Stalls := by
      rwa [behaviour, (moves_closePipes c).behaviour] at reads
    have before := h.returns reads
    rw [stop]
    rcases c.closeInput_cases with ⟨-, -, state⟩ | ⟨-, -, ⟨-, state⟩ | ⟨-, state⟩⟩
    · rw [Child.closePipes, state]
      exact before
    · rw [Child.closePipes, state]
      exact (writes_flush c).returns reads before
    · rw [Child.closePipes, state]
      exact (writes_flush c).returns reads before

theorem IsAttended.tearsTo (h : c.IsAttended finished limit) {result : Except SupervisorError Unit}
    (tears : c.TearsTo limit result c') : c'.IsAttended finished limit := by
  cases tears with
  | stuck endless => exact h.closeInput endless
  | awaited back lasts limitless =>
      subst limitless
      refine h.closePipes back rfl rfl rfl rfl rfl (.inr ⟨rfl, ?_⟩)
      rw [endsWithin_none, Option.isSome_eq_false_iff, Option.isNone_iff_eq_none] at lasts
      exact lasts
  | ended back ends =>
      exact h.closePipes back rfl rfl rfl rfl rfl (.inl (isSome_ended?_of_endsWithin ends))
  | killed back => exact h.closePipes back rfl rfl rfl rfl rfl (.inl rfl)

end Child

namespace Supervisor

variable {s : Supervisor} {c : Child}

/-! ## Every call attends to the child -/

/-- Whether the child of a supervisor is attended, if there is one. -/
def Attends (s : Supervisor) : Prop :=
  ∀ c, s.child = some c → c.IsAttended s.finished (patience s.exitTimeout)

theorem attends_withChild (h : c.IsAttended s.finished (patience s.exitTimeout)) :
    (s.withChild c).Attends := by
  rintro c' ⟨⟩
  exact h

theorem Attends.writeFrame (h : s.Attends) (a : Action) (arguments : List Argument) :
    (Supervisor.writeFrame a arguments s).state.Attends := by
  rcases state_writeFrame s a arguments with same | ⟨c, ops, listens, state⟩
  · rw [same]
    exact h
  · obtain ⟨child, unfinished, isOpen⟩ := listener?_eq_some.1 listens
    rw [state]
    refine attends_withChild ((h c child).writes isOpen
      (Child.writes_forM Child.writes_perform ops c) fun finished => ?_)
    rw [unfinished] at finished
    cases finished

theorem Attends.start (h : s.Attends) (files : FileSystem) (l : Launcher) :
    (Supervisor.start files l s).state.Attends := by
  have starts := startsTo_start files l s
  generalize (Supervisor.start files l s).result = result at starts
  generalize (Supervisor.start files l s).state = s' at starts
  cases starts with
  | refused e => exact h
  | notStarted e arguments idle => exact h
  | givenUp e c idle silent => exact h
  | unwatched e arguments idle => exact attends_withChild (Child.isAttended_fresh _ _)
  | ready arguments idle runs => exact attends_withChild (Child.isAttended_fresh _ _)

theorem Attends.send (h : s.Attends) (a : Action) (arguments : List Argument) :
    (Supervisor.send a arguments s).state.Attends := by
  cases a with
  | compile | finish => exact h
  | addSymbol | addSource | addReference | enableShim => exact h.writeFrame _ arguments

/-- What is told to a child that listens is written to it. -/
theorem Attends.tell (h : s.Attends) (listens : s.listener? = some c) {finished' : Bool}
    (f : Frame) (told : finished' = true → (Child.tell [f] c).result = .ok ()) :
    (Child.tell [f] c).state.IsAttended finished' (patience s.exitTimeout) := by
  obtain ⟨child, -, isOpen⟩ := listener?_eq_some.1 listens
  exact (h c child).writes isOpen (Child.writes_tell [f] c) fun finishes =>
    Child.buffer_of_tell (told finishes)

theorem Attends.compile (h : s.Attends) : (Supervisor.compile s).state.Attends := by
  cases first : s.compileRequested with
  | true =>
      rw [(compile_again first).2]
      exact h
  | false =>
      cases listens : s.listener? with
      | none =>
          rw [(compile_refused first listens).2]
          exact h
      | some c =>
          have unfinished := (listener?_eq_some.1 listens).2.1
          have asked := h.tell listens (.bare .compile) fun (finished : s.finished = true) => by
            rw [unfinished] at finished
            cases finished
          rw [(compile_eq first listens).2]
          cases (Child.tell [.bare .compile] c).result with
          | error stop => exact attends_withChild asked
          | ok => exact attends_withChild (asked.read _)

theorem Attends.finish (h : s.Attends) : (Supervisor.finish s).state.Attends := by
  cases listens : s.listener? with
  | none =>
      rw [(finish_refused listens).2]
      exact h
  | some c =>
      have unfinished := (listener?_eq_some.1 listens).2.1
      rw [(finish_eq listens).2]
      cases told : (Child.tell [.bare .finish] c).result with
      | ok =>
          rintro c' ⟨⟩
          exact h.tell listens _ fun _ => told
      | error stop =>
          refine attends_withChild (h.tell listens _ fun finished => ?_)
          rw [unfinished] at finished
          cases finished

theorem Attends.finishOwed (h : s.Attends) (child : s.child = some c) :
    (Supervisor.finishOwed s).state.Attends := by
  have attended := h c child
  have owes := owesTo_finishOwed child
  generalize (Supervisor.finishOwed s).result = result at owes
  generalize (Supervisor.finishOwed s).state = s' at owes
  have untold (isOpen : c.inputOpen = true) (unfinished : s.finished = false) :
      (s.withChild (Child.tell [.bare .finish] c).state).Attends := by
    refine attends_withChild (attended.writes isOpen (Child.writes_tell _ c) fun finished => ?_)
    rw [unfinished] at finished
    cases finished
  cases owes with
  | nothing finished => exact h
  | ended unfinished ended => exact attends_withChild (attended.poll ended)
  | closed unfinished running shut => exact h
  | told unfinished running isOpen done =>
      rintro c' ⟨⟩
      exact attended.writes isOpen (Child.writes_tell _ c) fun _ => Child.buffer_of_tell done
  | refused unfinished running isOpen failed => exact untold isOpen unfinished
  | stuck unfinished running isOpen failed => exact untold isOpen unfinished

theorem Attends.tearDown (h : s.Attends) (child : s.child = some c) :
    (Supervisor.tearDown s).state.Attends := by
  obtain ⟨c', tears, state⟩ := tearsTo_tearDown child
  rw [state]
  exact attends_withChild ((h c child).tearsTo tears)

theorem Attends.close (h : s.Attends) : (Supervisor.close s).state.Attends := by
  cases child : s.child with
  | none =>
      rw [(close_none child).2]
      exact h
  | some c =>
      have owed := h.finishOwed child
      obtain ⟨c', child', -⟩ := exists_child_finishOwed child
      rw [close_eq child]
      by_cases stuck : (Supervisor.finishOwed s).result = .error .never
      · rw [(ensuring_of_never _ stuck).2]
        exact owed
      · rw [(ensuring_eq _ stuck).1]
        exact owed.tearDown child'

/-- Each call attends to the child. -/
theorem Attends.step (h : s.Attends) (call : Call) : (call.state s).Attends := by
  cases call with
  | start files l => exact h.start files l
  | send a arguments => exact h.send a arguments
  | compile => exact h.compile
  | finish => exact h.finish
  | close => exact h.close

/-- All calls attend to the child. -/
theorem Attends.run (h : s.Attends) (calls : List Call) : (s.run calls).Attends := by
  induction calls generalizing s with
  | nil => exact h
  | cons call calls ih => exact ih (h.step call)

/-! ## Closing -/

end Supervisor

end PluginBuild
