/-
# Proofs.Launch.Discipline -- no calls can garble what a child is sent

Whatever calls are made of a supervisor, and in whatever order, what its child has been
given begins the bytes of the frames that the calls wrote (`Supervisor.written`): whole
frames and at most a part of the next one, the request to compile at most once, and nothing behind
the end.  `Disciplined` is the invariant, `Disciplined.step` says that each call keeps it and
`Disciplined.run` that all of them do.
-/
import PluginBuild.Proofs.Launch.Delivery
import PluginBuild.Proofs.Launch.Start

namespace PluginBuild

set_option autoImplicit false

open PluginBuild.Wire

/-! ## Calls -/

/-- A call of a supervisor. -/
inductive Call where
  | start (files : FileSystem) (l : Launcher)
  | send (action : Action) (arguments : List Argument)
  | compile
  | finish
  | close

namespace Call

/-- What a call leaves of a supervisor, whether or not it is refused. -/
def state : Call → Supervisor → Supervisor
  | start files l, s => (Supervisor.start files l s).state
  | send action arguments, s => (Supervisor.send action arguments s).state
  | compile, s => (Supervisor.compile s).state
  | finish, s => (Supervisor.finish s).state
  | close, s => (Supervisor.close s).state

/-- The frame that a call is about to write. -/
def frame? (s : Supervisor) : Call → Option Frame
  | start _ _ => none
  | send action arguments => Supervisor.configuration? action arguments
  | compile => if s.compileRequested then none else some (.bare .compile)
  | finish => some (.bare .finish)
  | close => if s.child.any fun c => c.ended?.isSome then none else some (.bare .finish)

/-- The frames that a call writes: its own, where somebody listens. -/
def written (s : Supervisor) (call : Call) : List Frame :=
  if s.listener?.isSome then (call.frame? s).toList else []

/-- Whether the strings among the arguments of a call fit. -/
def IsShort : Call → Prop
  | send _ arguments => ∀ t, Argument.text t ∈ arguments → ShortText t
  | _ => True

variable {s : Supervisor} {c : Child}

theorem frame?_compile (first : s.compileRequested = false) :
    compile.frame? s = some (.bare .compile) := by
  rw [frame?, first, if_neg Bool.false_ne_true]

theorem written_of_some (call : Call) {f : Frame} (listens : s.listener? = some c)
    (asks : call.frame? s = some f) : call.written s = [f] := by
  rw [written, listens, asks]
  rfl

theorem written_of_deaf (call : Call) (h : s.listener? = none) : call.written s = [] := by
  rw [written, h]
  rfl

theorem written_of_silent (call : Call) (h : call.frame? s = none) : call.written s = [] := by
  rw [written, h]
  split <;> rfl

end Call

namespace Supervisor

/-- What calls leave of a supervisor. -/
def run (s : Supervisor) (calls : List Call) : Supervisor :=
  calls.foldl (fun s call => call.state s) s

/-- The frames that calls write, in order. -/
def written (s : Supervisor) : List Call → List Frame
  | [] => []
  | call :: calls => call.written s ++ written (call.state s) calls

variable {s : Supervisor} {c : Child} {w : List Frame}

/-- Closing changes neither how long a child may take to end nor what was asked. -/
theorem close_keeps (s : Supervisor) : (close s).state.exitTimeout = s.exitTimeout ∧
    (close s).state.compileRequested = s.compileRequested := by
  cases child : s.child with
  | none =>
      rw [(close_none child).2]
      exact ⟨rfl, rfl⟩
  | some c =>
      obtain ⟨c', child', -⟩ := exists_child_finishOwed child
      obtain ⟨timeout, -, asked⟩ := finishOwed_keeps child
      rw [close_eq child]
      by_cases stuck : (finishOwed s).result = .error .never
      · rw [(ensuring_of_never _ stuck).2]
        exact ⟨timeout, asked⟩
      · obtain ⟨c'', -, state⟩ := tearsTo_tearDown child'
        rw [(ensuring_eq _ stuck).1, state]
        exact ⟨timeout, asked⟩

/-- No call changes how long a child may take to end, and only the one that asks to compile changes
whether that was asked. -/
theorem state_keeps (call : Call) (s : Supervisor) :
    (call.state s).exitTimeout = s.exitTimeout ∧
      ((call.state s).compileRequested = true ↔ s.compileRequested = true ∨ call = .compile) := by
  have same {s' : Supervisor} (timeout : s'.exitTimeout = s.exitTimeout)
      (asked : s'.compileRequested = s.compileRequested) (unasking : call ≠ .compile) :
      s'.exitTimeout = s.exitTimeout ∧
        (s'.compileRequested = true ↔ s.compileRequested = true ∨ call = .compile) :=
    ⟨timeout, by rw [asked, or_iff_left unasking]⟩
  cases call with
  | start files l =>
      have starts := startsTo_start files l s
      rw [Call.state]
      generalize (start files l s).result = result at starts
      generalize (start files l s).state = s' at starts ⊢
      cases starts <;> exact same rfl rfl nofun
  | send a arguments =>
      have written : (writeFrame a arguments s).state.exitTimeout = s.exitTimeout ∧
          (writeFrame a arguments s).state.compileRequested = s.compileRequested := by
        rcases state_writeFrame s a arguments with stays | ⟨c, ops, -, state⟩
        · rw [stays]
          exact ⟨rfl, rfl⟩
        · rw [state]
          exact ⟨rfl, rfl⟩
      cases a with
      | compile | finish => exact same rfl rfl nofun
      | addSymbol | addSource | addReference | enableShim => exact same written.1 written.2 nofun
  | compile =>
      rw [Call.state]
      cases first : s.compileRequested with
      | true =>
          rw [(compile_again first).2]
          exact ⟨rfl, iff_of_true first (.inl rfl)⟩
      | false =>
          cases listens : s.listener? with
          | none =>
              rw [(compile_refused first listens).2]
              exact ⟨rfl, iff_of_true rfl (.inr rfl)⟩
          | some c =>
              rw [(compile_eq first listens).2]
              split <;> exact ⟨rfl, iff_of_true rfl (.inr rfl)⟩
  | finish =>
      rw [Call.state]
      cases listens : s.listener? with
      | none =>
          rw [(finish_refused listens).2]
          exact same rfl rfl nofun
      | some c =>
          rw [(finish_eq listens).2]
          split <;> exact same rfl rfl nofun
  | close => exact same (close_keeps s).1 (close_keeps s).2 nofun

theorem sendable_of_configuration? {a : Action} {arguments : List Argument} {f : Frame}
    (asked : configuration? a arguments = some f)
    (short : ∀ t, Argument.text t ∈ arguments → ShortText t) :
    f.Sendable ∧ f.action.isConfiguration = true := by
  unfold configuration? at asked
  split at asked
  · next configures =>
    obtain ⟨payload, shaped, rfl⟩ := Option.map_eq_some_iff.1 asked
    exact ⟨⟨a.wellShaped_of_payload? shaped, fun t ht => short t (a.mem_of_payload? shaped ht)⟩,
      configures⟩
  · cases asked

/-! ## The invariant -/

/-- What holds of a supervisor that has written frames: the request to compile is among them
once at most, they are on their way to the child, and no other child got a byte. -/
structure Disciplined (s : Supervisor) (w : List Frame) : Prop where
  sendable : ∀ f ∈ w, f.Sendable
  once : (w.map Frame.action).count .compile ≤ if s.compileRequested then 1 else 0
  idle : s.child = none → w = [] ∧ s.finished = false
  busy : ∀ c, s.child = some c → c.Holds s.finished w
  silent : ∀ c, .started c ∈ s.former → c.deliveries = []

theorem disciplined_fresh (helper : Path) (platform : Platform)
    (readyTimeout exitTimeout : Number.Binary64) :
    (fresh helper platform readyTimeout exitTimeout).Disciplined [] where
  sendable _ h := absurd h List.not_mem_nil
  once := Nat.le_refl _
  idle _ := ⟨rfl, rfl⟩
  busy _ h := by cases h
  silent _ h := absurd h List.not_mem_nil

theorem Disciplined.compilesOnce (h : s.Disciplined w) : (w.map Frame.action).count .compile ≤ 1 := by
  have once := h.once
  split at once <;> omega

/-- Exchanging the child for one to which the same frames are on their way keeps the invariant. -/
theorem Disciplined.withChild (h : s.Disciplined w) {c' : Child}
    (holds : c'.Holds s.finished w) : (s.withChild c').Disciplined w where
  sendable := h.sendable
  once := h.once
  idle absent := by cases absent
  busy c₁ same := by
    cases same
    exact holds
  silent := h.silent

/-- A frame that is on its way behind the others keeps the invariant. -/
theorem Disciplined.push (h : s.Disciplined w) {f : Frame} (sendable : f.Sendable)
    {s' : Supervisor} {c' : Child} (child : s'.child = some c') (former : s'.former = s.former)
    (once : (f.action = .compile → s.compileRequested = false ∧ s'.compileRequested = true) ∧
      (s.compileRequested = true → s'.compileRequested = true))
    (holds : c'.Holds s'.finished (w ++ [f])) : s'.Disciplined (w ++ [f]) where
  sendable g hg := by
    rcases List.mem_append.1 hg with hg | hg
    · exact h.sendable g hg
    · exact List.mem_singleton.1 hg ▸ sendable
  once := by
    have before := h.once
    rw [List.map_append, List.map_singleton, List.count_append, List.count_singleton]
    by_cases compiles : f.action = .compile
    · obtain ⟨first, asked⟩ := once.1 compiles
      rw [first] at before
      rw [asked, compiles, if_pos (beq_self_eq_true _), if_pos rfl]
      simp only [Bool.false_eq_true, if_false] at before
      omega
    · rw [if_neg (by simpa using compiles), Nat.add_zero]
      refine Nat.le_trans before ?_
      cases asked : s.compileRequested with
      | true => simp [once.2 asked]
      | false => simp
  idle absent := by
    rw [child] at absent
    cases absent
  busy c₁ same := by
    rw [child] at same
    cases same
    exact holds
  silent := by
    rw [former]
    exact h.silent

/-! ## Each call -/

theorem Disciplined.start (h : s.Disciplined w) (files : FileSystem) (l : Launcher) :
    (Supervisor.start files l s).state.Disciplined w := by
  have starts := startsTo_start files l s
  generalize (Supervisor.start files l s).result = result at starts
  generalize (Supervisor.start files l s).state = s' at starts
  have begins : ∀ arguments, s.child = none →
      (s.withChild (.fresh arguments (l.behaviour files))).Disciplined w := by
    intro arguments idle
    obtain ⟨rfl, unfinished⟩ := h.idle idle
    refine h.withChild ?_
    rw [unfinished]
    exact Child.holds_fresh arguments _
  cases starts with
  | refused e => exact h
  | notStarted e arguments idle =>
      refine ⟨h.sendable, h.once, h.idle, h.busy, fun c started => ?_⟩
      rcases List.mem_append.1 started with started | started
      · exact h.silent c started
      · cases List.mem_singleton.1 started
  | givenUp e c idle silent =>
      refine ⟨h.sendable, h.once, h.idle, h.busy, fun c' started => ?_⟩
      rcases List.mem_append.1 started with started | started
      · exact h.silent c' started
      · cases List.mem_singleton.1 started
        exact silent
  | unwatched e arguments idle => exact begins arguments idle
  | ready arguments idle runs => exact begins arguments idle

theorem Disciplined.send (h : s.Disciplined w) (a : Action) (arguments : List Argument)
    (short : ∀ t, Argument.text t ∈ arguments → ShortText t) :
    (Supervisor.send a arguments s).state.Disciplined (w ++ (Call.send a arguments).written s) := by
  cases listens : s.listener? with
  | none =>
      rw [Call.written_of_deaf _ listens, List.append_nil, (send_refused (.inl listens)).2]
      exact h
  | some c =>
      cases asks : configuration? a arguments with
      | none =>
          rw [Call.written_of_silent (.send a arguments) asks, List.append_nil,
            (send_refused (.inr asks)).2]
          exact h
      | some f =>
          obtain ⟨child, unfinished, -⟩ := listener?_eq_some.1 listens
          obtain ⟨sendable, configures⟩ := sendable_of_configuration? asks short
          have holds := h.busy c child
          have goesOn : f.action ≠ .finish := fun finish => by
            rw [finish] at configures
            cases configures
          rw [Call.written_of_some (.send a arguments) listens asks,
            (send_eq listens asks sendable.short).2]
          refine h.push sendable rfl rfl ⟨fun compiles => ?_, id⟩ ?_
          · rw [compiles] at configures
            cases configures
          · rw [finished_withChild]
            rw [unfinished] at holds ⊢
            exact holds.put goesOn

theorem Disciplined.finish (h : s.Disciplined w) :
    (Supervisor.finish s).state.Disciplined (w ++ Call.finish.written s) := by
  cases listens : s.listener? with
  | none =>
      rw [Call.written_of_deaf _ listens, List.append_nil, (finish_refused listens).2]
      exact h
  | some c =>
      obtain ⟨child, unfinished, -⟩ := listener?_eq_some.1 listens
      have holds := h.busy c child
      rw [unfinished] at holds
      rw [Call.written_of_some .finish listens rfl, (finish_eq listens).2]
      have sendable := Frame.sendable_bare (a := .finish) rfl
      cases told : (Child.tell [.bare .finish] c).result with
      | error stop =>
          refine h.push sendable rfl rfl ⟨nofun, id⟩ ?_
          rw [finished_withChild, unfinished]
          exact holds.finish_fails told
      | ok => exact h.push sendable rfl rfl ⟨nofun, id⟩ (holds.finish_done told)

theorem Disciplined.compile (h : s.Disciplined w) :
    (Supervisor.compile s).state.Disciplined (w ++ Call.compile.written s) := by
  cases first : s.compileRequested with
  | true =>
      have silent : Call.compile.frame? s = none := by rw [Call.frame?, first, if_pos rfl]
      rw [Call.written_of_silent _ silent, List.append_nil, (compile_again first).2]
      exact h
  | false =>
      have once := h.once
      rw [first] at once
      cases listens : s.listener? with
      | none =>
          rw [Call.written_of_deaf _ listens, List.append_nil, (compile_refused first listens).2]
          exact ⟨h.sendable, Nat.le_trans once (Nat.zero_le _), h.idle, h.busy, h.silent⟩
      | some c =>
          obtain ⟨child, unfinished, -⟩ := listener?_eq_some.1 listens
          have holds := h.busy c child
          rw [unfinished] at holds
          have told := holds.tell (f := .bare .compile) nofun
          rw [Call.written_of_some _ listens (Call.frame?_compile first),
            (compile_eq first listens).2]
          have sendable := Frame.sendable_bare (a := .compile) rfl
          cases (Child.tell [.bare .compile] c).result with
          | error stop =>
              refine h.push sendable rfl rfl ⟨fun _ => ⟨first, rfl⟩, fun _ => rfl⟩ ?_
              show Child.Holds _ s.finished _
              rw [unfinished]
              exact told
          | ok =>
              refine h.push sendable rfl rfl ⟨fun _ => ⟨first, rfl⟩, fun _ => rfl⟩ ?_
              show Child.Holds _ s.finished _
              rw [unfinished]
              exact told.congr rfl rfl rfl rfl

theorem Disciplined.tearDown (h : s.Disciplined w) (child : s.child = some c) :
    (Supervisor.tearDown s).state.Disciplined w := by
  obtain ⟨c', tears, state⟩ := tearsTo_tearDown child
  rw [state]
  exact h.withChild ((h.busy c child).tearsTo tears)

/-- What is said before a child is torn down keeps the invariant. -/
theorem Disciplined.finishOwed (h : s.Disciplined w) (child : s.child = some c) :
    (Supervisor.finishOwed s).state.Disciplined (w ++ Call.close.written s) := by
  have holds := h.busy c child
  have owes := owesTo_finishOwed child
  generalize (Supervisor.finishOwed s).result = result at owes
  generalize (Supervisor.finishOwed s).state = s' at owes ⊢
  have writes (unfinished : s.finished = false) (running : c.ended? = none)
      (isOpen : c.inputOpen = true) : Call.close.written s = [.bare .finish] := by
    have asks : Call.close.frame? s = some (.bare .finish) := by
      rw [Call.frame?, child, Option.any_some, running]
      rfl
    exact Call.written_of_some .close (listener?_eq_some.2 ⟨child, unfinished, isOpen⟩) asks
  have sendable := Frame.sendable_bare (a := .finish) rfl
  cases owes with
  | nothing finished =>
      have deaf : s.listener? = none := by rw [listener?, finished, if_pos rfl]
      rw [Call.written_of_deaf _ deaf, List.append_nil]
      exact h
  | ended unfinished ended =>
      have silent : Call.close.frame? s = none := by
        rw [Call.frame?, child, Option.any_some, ended, if_pos rfl]
      rw [Call.written_of_silent _ silent, List.append_nil]
      exact h.withChild (holds.congr rfl rfl rfl rfl)
  | closed unfinished running shut =>
      rw [Call.written_of_deaf _ (listener?_of_closed child shut), List.append_nil]
      exact h
  | told unfinished running isOpen done =>
      rw [unfinished] at holds
      rw [writes unfinished running isOpen]
      exact h.push sendable rfl rfl ⟨by rintro ⟨⟩, id⟩ (holds.finish_done done)
  | refused unfinished running isOpen failed =>
      rw [unfinished] at holds
      rw [writes unfinished running isOpen]
      refine h.push sendable rfl rfl ⟨by rintro ⟨⟩, id⟩ ?_
      rw [finished_withChild, unfinished]
      exact holds.finish_fails failed
  | stuck unfinished running isOpen failed =>
      rw [unfinished] at holds
      rw [writes unfinished running isOpen]
      refine h.push sendable rfl rfl ⟨by rintro ⟨⟩, id⟩ ?_
      rw [finished_withChild, unfinished]
      exact holds.finish_fails failed

theorem Disciplined.close (h : s.Disciplined w) :
    (Supervisor.close s).state.Disciplined (w ++ Call.close.written s) := by
  cases child : s.child with
  | none =>
      have deaf : s.listener? = none := by
        unfold listener?
        rw [child]
        split <;> rfl
      rw [(close_none child).2, Call.written_of_deaf _ deaf, List.append_nil]
      exact h
  | some c =>
      obtain ⟨c', child', -⟩ := exists_child_finishOwed child
      rw [close_eq child]
      by_cases stuck : (Supervisor.finishOwed s).result = .error .never
      · rw [(ensuring_of_never _ stuck).2]
        exact h.finishOwed child
      · rw [(ensuring_eq _ stuck).1]
        exact (h.finishOwed child).tearDown child'

/-- Each call keeps the invariant. -/
theorem Disciplined.step (h : s.Disciplined w) {call : Call} (short : call.IsShort) :
    (call.state s).Disciplined (w ++ call.written s) := by
  cases call with
  | start files l =>
      rw [Call.written_of_silent (.start files l) rfl, List.append_nil]
      exact h.start files l
  | send a arguments => exact h.send a arguments short
  | compile => exact h.compile
  | finish => exact h.finish
  | close => exact h.close

/-- All calls keep the invariant. -/
theorem Disciplined.run (h : s.Disciplined w) {calls : List Call}
    (short : ∀ call ∈ calls, call.IsShort) :
    (s.run calls).Disciplined (w ++ s.written calls) := by
  induction calls generalizing s w with
  | nil =>
      rw [written, List.append_nil]
      exact h
  | cons call calls ih =>
      rw [written, ← List.append_assoc]
      exact ih (h.step (short call List.mem_cons_self)) fun call' h' =>
        short call' (List.mem_cons_of_mem _ h')

/-- What was written to a child and does not wait any more has been given to it, unless something
has stopped the child. -/
theorem Disciplined.given_eq (h : s.Disciplined w) (child : s.child = some c) (free : c.stop = none)
    (empty : c.buffer = []) : c.given = framesBytes w := by
  have all := (h.busy c child).conserved free
  rwa [empty, List.append_nil] at all

end Supervisor

end PluginBuild
