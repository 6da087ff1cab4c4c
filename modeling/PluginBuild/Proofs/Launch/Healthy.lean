/-
# Proofs.Launch.Healthy -- a helper that was started well ends well

A helper that reads what it is sent waits for frames until it has been told to finish, and takes
them all (`Child.Serves.eager`).  Once it has been told it ends with code zero
(`status_helper`).  So calls either leave it serving (`Supervisor.Tends`) or close it when it has
ended so (`Supervisor.Retired`), as long as it is given the time to end
(`Behaviour.EndsWithin`), and no calls can do otherwise (`Supervisor.Tends.run`).
-/
import PluginBuild.Proofs.File.Walk
import PluginBuild.Proofs.Launch.Discipline
import PluginBuild.Proofs.Launch.Teardown
import PluginBuild.Proofs.Program.Helper

namespace PluginBuild

set_option autoImplicit false

open PluginBuild.Wire

/-- Whether what is started is the helper: it reads all its input, and knows the level of its log
records. -/
structure Behaviour.IsHelper (b : Behaviour) (setting : Helper.Setting) : Prop where
  program : b.program = .helper setting
  reads : b.deaf = false
  takes : ∀ deliveries bytes, b.intake deliveries bytes = none
  level : setting.knowsLevel = true

/-- Whether a child that comes to its end after some deliveries is gone within a limit, if there is
one. -/
def Behaviour.isPrompt (b : Behaviour) (limit : Option Nat) (deliveries : List (List UInt8)) : Bool :=
  limit.all fun most => decide (b.lingers deliveries ≤ most)

/-- Whether a child that comes to its end is always gone within a limit. -/
def Behaviour.EndsWithin (b : Behaviour) (limit : Option Nat) : Prop :=
  ∀ deliveries, b.isPrompt limit deliveries = true

variable {setting : Helper.Setting} {b : Behaviour} {c : Child} {s : Supervisor}
  {w fs : List Frame}

/-! ## What a helper comes to -/

/-- A helper that was sent frames has answered them, and has ended if they told it to. -/
theorem status_helper (level : setting.knowsLevel = true) {deliveries : List (List UInt8)}
    (whole : wholeFrames deliveries.flatten = framesBytes fs)
    (accepts : setting.session.Accepts fs)
    (handles : setting.session.HandlesAll setting.compiler fs) :
    let status := (Program.helper setting).status deliveries false
    status.exit = (if .finish ∈ fs.map Frame.action then some 0 else none) ∧
      ∃ answers, (Session.replay setting.compiler fs setting.session).result = .ok answers ∧
        status.output = answers.flatMap CompileResult.bytes := by
  intro status
  obtain ⟨ending, answers, replayed, output⟩ := Helper.run_of_frames level accepts handles
  have sent : status.output = (Helper.run setting [] (framesBytes fs)).outputBytes := by
    simp only [status, Program.helper, Bool.false_eq_true, if_false, whole]
  have came : status.exit = if (Helper.run setting [] (framesBytes fs)).ending = .starved then none
      else some (Helper.run setting [] (framesBytes fs)).ending.code := by
    simp only [status, Program.helper, Bool.false_eq_true, if_false, whole, and_true]
  rw [sent, came, ending]
  refine ⟨?_, answers, replayed, output⟩
  by_cases finish : .finish ∈ fs.map Frame.action
  · rw [if_pos finish, if_pos finish]
    rfl
  · rw [if_neg finish, if_neg finish]
    rfl

/-- A helper that has not been told to finish waits while its input is open. -/
theorem exit_helper_of_goesOn (level : setting.knowsLevel = true) {deliveries : List (List UInt8)}
    (whole : wholeFrames deliveries.flatten = framesBytes fs)
    (accepts : setting.session.Accepts fs)
    (handles : setting.session.HandlesAll setting.compiler fs)
    (goesOn : .finish ∉ fs.map Frame.action) :
    (Program.helper setting).exit deliveries false = none := by
  have status := (status_helper level whole accepts handles).1
  rw [if_neg goesOn] at status
  rw [Program.exit, status]
  rfl

/-- A helper that has been told to finish has ended well. -/
theorem exit_helper_of_finish (level : setting.knowsLevel = true) {deliveries : List (List UInt8)}
    (whole : wholeFrames deliveries.flatten = framesBytes fs)
    (accepts : setting.session.Accepts fs)
    (handles : setting.session.HandlesAll setting.compiler fs)
    (told : .finish ∈ fs.map Frame.action) (closed : Bool) :
    (Program.helper setting).exit deliveries closed = some 0 := by
  have status := (status_helper level whole accepts handles).1
  rw [if_pos told] at status
  rw [Program.exit, status, Option.some_or]

namespace Child

/-- Whether a child is a helper that nothing has stopped and of which nobody has asked the exit
code. -/
structure Serves (c : Child) (b : Behaviour) (setting : Helper.Setting) : Prop where
  behaviour : c.behaviour = b
  isHelper : b.IsHelper setting
  running : c.code = none
  free : c.stop = none

theorem Serves.congr {c' : Child} (h : c.Serves b setting) (behaviour : c'.behaviour = c.behaviour)
    (code : c'.code = c.code) (free : c'.stop = none) : c'.Serves b setting where
  behaviour := behaviour.trans h.behaviour
  isHelper := h.isHelper
  running := code.trans h.running
  free := free

/-- A helper goes on until it has been given a frame behind those that it accepts. -/
theorem Serves.eager (h : c.Serves b setting) (isOpen : c.inputOpen = true) {f : Frame}
    (sendable : f.Sendable) (accepts : setting.session.Accepts w)
    (handles : setting.session.HandlesAll setting.compiler w)
    (goesOn : .finish ∉ w.map Frame.action) : c.Eager (framesBytes (w ++ [f])) where
  reads := by rw [h.behaviour, h.isHelper.reads]
  takes := by rw [h.behaviour]; exact h.isHelper.takes
  goesOn deliveries rest missing all := by
    obtain ⟨fs, part, cut⟩ := exists_cut (w := w ++ [f]) ⟨rest, all⟩
    have sendableAll : ∀ g ∈ w ++ [f], g.Sendable := fun g among =>
      (List.mem_append.1 among).elim (accepts.sendable g)
        fun last => List.mem_singleton.1 last ▸ sendable
    have begins : fs <+: w := by
      rcases List.prefix_concat_iff.1 cut.whole with rfl | begins
      · -- all of them would leave nothing to come
        rw [cut.split, List.append_assoc, List.append_right_eq_self] at all
        exact absurd (List.append_eq_nil_iff.1 all).2 missing
      · exact begins
    rw [h.behaviour, h.isHelper.program]
    exact exit_helper_of_goesOn h.isHelper.level (cut.wholeFrames_eq sendableAll)
      (accepts.of_prefix begins) (Session.handlesAll_of_prefix handles begins)
      fun present => goesOn ((begins.map Frame.action).subset present)
  inputOpen := isOpen
  unasked := h.running
  free := h.free

end Child

/-- What is on its way to a helper that nothing has stopped is something that its session
accepts. -/
theorem Supervisor.Disciplined.accepts (h : s.Disciplined w) (child : s.child = some c)
    (free : c.stop = none) : setting.session.Accepts w where
  sendable := h.sendable
  once := h.compilesOnce
  shimmed _ := nofun
  last := by
    have holds := h.busy c child
    cases finished : s.finished with
    | false =>
        rw [finished] at holds
        exact fun present => holds.unended rfl free (List.dropLast_subset _ present)
    | true =>
        rw [finished] at holds
        obtain ⟨-, -, front, rfl, without⟩ := holds.told rfl
        rw [List.map_append, List.map_singleton, List.dropLast_concat]
        exact without

namespace Supervisor

/-! ## Calls to a helper -/

/-- Whether a supervisor has a helper that waits to be talked to. -/
structure Tends (s : Supervisor) (b : Behaviour) (setting : Helper.Setting) (c : Child) : Prop where
  child : s.child = some c
  serves : c.Serves b setting
  inputOpen : c.inputOpen = true

/-- Whether a supervisor has closed its child, which has ended well. -/
structure Retired (s : Supervisor) (c : Child) : Prop where
  child : s.child = some c
  input : c.inputOpen = false
  output : c.outputOpen = false
  code : c.code = some 0

theorem Tends.listener? (h : s.Tends b setting c) (unfinished : s.finished = false) :
    s.listener? = some c := listener?_eq_some.2 ⟨h.child, unfinished, h.inputOpen⟩

theorem Tends.of_listener? (h : s.Tends b setting c) {c' : Child}
    (listens : s.listener? = some c') :
    c' = c ∧ s.finished = false := by
  obtain ⟨child, unfinished, -⟩ := listener?_eq_some.1 listens
  rw [h.child] at child
  cases child
  exact ⟨rfl, unfinished⟩

/-- Exchanging a helper for one that differs in what is on the way to it. -/
theorem Tends.exchange (h : s.Tends b setting c) {s' : Supervisor} {c' : Child}
    (child : s'.child = some c') (behaviour : c'.behaviour = c.behaviour)
    (code : c'.code = c.code) (inputOpen : c'.inputOpen = c.inputOpen) (free : c'.stop = none) :
    s'.Tends b setting c' where
  child := child
  serves := h.serves.congr behaviour code free
  inputOpen := inputOpen.trans h.inputOpen

/-- What goes through with a child that reads everything goes through with a helper. -/
theorem Tends.goes (h : s.Tends b setting c) (disciplined : s.Disciplined w)
    (handles : setting.session.HandlesAll setting.compiler w) (unfinished : s.finished = false)
    {f : Frame} (sendable : f.Sendable) {x : Child.Step Unit} (goes : Child.Goes f.bytes x) :
    (x c).result = .ok () ∧ (x c).state.stop = none := by
  have holds := disciplined.busy c h.child
  rw [unfinished] at holds
  have eager := h.serves.eager h.inputOpen sendable
    (disciplined.accepts h.child h.serves.free) handles (holds.unended rfl h.serves.free)
  have whole : c.given ++ c.buffer ++ f.bytes = framesBytes (w ++ [f]) := by
    rw [holds.conserved h.serves.free, framesBytes_append, framesBytes_singleton]
  have within : c.given ++ c.buffer ++ f.bytes <+: framesBytes (w ++ [f]) :=
    ⟨[], (List.append_nil _).trans whole⟩
  obtain ⟨done, eager'⟩ := goes c _ eager within
  exact ⟨done, eager'.free⟩

/-- What is told to a helper goes through. -/
theorem Tends.tell (h : s.Tends b setting c) (disciplined : s.Disciplined w)
    (handles : setting.session.HandlesAll setting.compiler w) (unfinished : s.finished = false)
    {f : Frame} (sendable : f.Sendable) :
    (Child.tell [f] c).result = .ok () ∧ (Child.tell [f] c).state.stop = none := by
  have goes := Child.goes_tell [f]
  rw [framesBytes_singleton] at goes
  exact h.goes disciplined handles unfinished sendable goes

/-- A helper has ended well if it was told to finish, and waits otherwise. -/
theorem Tends.ended?_eq (h : s.Tends b setting c) (disciplined : s.Disciplined w)
    (handles : setting.session.HandlesAll setting.compiler w) :
    c.ended? = if s.finished then some 0 else none := by
  have holds := disciplined.busy c h.child
  have accepts : setting.session.Accepts w := disciplined.accepts h.child h.serves.free
  have helper := h.serves.isHelper
  rw [Child.ended?, h.serves.running, Option.none_or, h.inputOpen, h.serves.behaviour,
    helper.program]
  cases finished : s.finished with
  | true =>
      rw [finished] at holds
      obtain ⟨-, given, front, rfl, -⟩ := holds.told rfl
      have cut : Cut (front ++ [.bare .finish]) c.given (front ++ [.bare .finish]) [] :=
        given ▸ cut_framesBytes _
      exact exit_helper_of_finish helper.level (cut.wholeFrames_eq accepts.sendable) accepts handles
        (by simp [Frame.bare]) false
  | false =>
      rw [finished] at holds
      obtain ⟨fs, part, cut⟩ := exists_cut holds.begins
      exact exit_helper_of_goesOn helper.level (cut.wholeFrames_eq accepts.sendable)
        (accepts.of_prefix cut.whole) (Session.handlesAll_of_prefix handles cut.whole)
        fun present => holds.unended rfl h.serves.free ((cut.whole.map Frame.action).subset present)

theorem Tends.send (h : s.Tends b setting c) (disciplined : s.Disciplined w)
    (handles : setting.session.HandlesAll setting.compiler w) (a : Action)
    (arguments : List Argument) (short : ∀ t, Argument.text t ∈ arguments → ShortText t) :
    ∃ c', (Supervisor.send a arguments s).state.Tends b setting c' := by
  cases listens : s.listener? with
  | none => exact ⟨c, by rw [(send_refused (.inl listens)).2]; exact h⟩
  | some c' =>
      obtain ⟨rfl, unfinished⟩ := h.of_listener? listens
      cases asks : configuration? a arguments with
      | none => exact ⟨c', by rw [(send_refused (.inr asks)).2]; exact h⟩
      | some f =>
          obtain ⟨sendable, -⟩ := sendable_of_configuration? asks short
          obtain ⟨-, free⟩ := h.goes disciplined handles unfinished sendable (Child.goes_put f)
          have moves := (Child.writes_put f c').moves
          rw [(send_eq listens asks sendable.short).2]
          exact ⟨_, h.exchange rfl moves.behaviour moves.code moves.inputOpen free⟩

theorem Tends.compile (h : s.Tends b setting c) (disciplined : s.Disciplined w)
    (handles : setting.session.HandlesAll setting.compiler w) :
    ∃ c', (Supervisor.compile s).state.Tends b setting c' := by
  cases first : s.compileRequested with
  | true => exact ⟨c, by rw [(compile_again first).2]; exact h⟩
  | false =>
      cases listens : s.listener? with
      | none =>
          rw [(compile_refused first listens).2]
          exact ⟨c, h.exchange h.child rfl rfl rfl h.serves.free⟩
      | some c' =>
          obtain ⟨rfl, unfinished⟩ := h.of_listener? listens
          obtain ⟨told, free⟩ := h.tell disciplined handles unfinished
            (Frame.sendable_bare (a := .compile) rfl)
          have moves := (Child.writes_tell [.bare .compile] c').moves
          rw [(compile_eq first listens).2, told]
          exact ⟨_, h.exchange rfl moves.behaviour moves.code moves.inputOpen free⟩

/-- A helper can be told to finish once, and goes on to serve until it is closed. -/
theorem Tends.finish (h : s.Tends b setting c) (disciplined : s.Disciplined w)
    (handles : setting.session.HandlesAll setting.compiler w) :
    (∃ c', (Supervisor.finish s).state.Tends b setting c') ∧
      (Supervisor.finish s).state.finished = true := by
  cases finished : s.finished with
  | true =>
      have deaf : s.listener? = none := by rw [Supervisor.listener?, finished, if_pos rfl]
      rw [(finish_refused deaf).2]
      exact ⟨⟨c, h⟩, finished⟩
  | false =>
      obtain ⟨told, free⟩ := h.tell disciplined handles finished
        (Frame.sendable_bare (a := .finish) rfl)
      have moves := (Child.writes_tell [.bare .finish] c).moves
      rw [(finish_eq (h.listener? finished)).2, told]
      exact ⟨⟨_, h.exchange rfl moves.behaviour moves.code moves.inputOpen free⟩, rfl⟩

/-- What is said before a helper is torn down leaves it told to finish. -/
theorem Tends.finishOwed (h : s.Tends b setting c) (disciplined : s.Disciplined w)
    (handles : setting.session.HandlesAll setting.compiler w) :
    (Supervisor.finishOwed s).result = .ok () ∧
      (∃ c', (Supervisor.finishOwed s).state.Tends b setting c') ∧
      (Supervisor.finishOwed s).state.finished = true := by
  have running := h.ended?_eq disciplined handles
  have tell := fun unfinished => h.tell disciplined handles unfinished
    (Frame.sendable_bare (a := .finish) rfl)
  have moves := (Child.writes_tell [.bare .finish] c).moves
  have owes := owesTo_finishOwed h.child
  generalize (Supervisor.finishOwed s).result = result at owes ⊢
  generalize (Supervisor.finishOwed s).state = s' at owes ⊢
  cases owes with
  | nothing finished => exact ⟨rfl, ⟨c, h⟩, finished⟩
  | ended unfinished ended =>
      rw [running, unfinished] at ended
      cases ended
  | closed unfinished running shut =>
      rw [h.inputOpen] at shut
      cases shut
  | told unfinished running isOpen done =>
      have free := (tell unfinished).2
      exact ⟨rfl, ⟨_, h.exchange rfl moves.behaviour moves.code moves.inputOpen free⟩, rfl⟩
  | refused unfinished running isOpen failed =>
      rw [(tell unfinished).1] at failed
      cases failed
  | stuck unfinished running isOpen failed =>
      rw [(tell unfinished).1] at failed
      cases failed

/-- A helper that has been told to finish is torn down when it has ended well or, where it is not
given the time for that, been killed. -/
theorem Tends.tearDown (h : s.Tends b setting c) (disciplined : s.Disciplined w)
    (handles : setting.session.HandlesAll setting.compiler w) (told : s.finished = true) :
    (Supervisor.tearDown s).result = .ok () ∧ ∃ c', (Supervisor.tearDown s).state = s.withChild c' ∧
      c'.inputOpen = false ∧ c'.outputOpen = false ∧
      c'.code = some (if b.isPrompt (patience s.exitTimeout) c.deliveries then 0
        else Child.killedCode) := by
  have holds := disciplined.busy c h.child
  rw [told] at holds
  obtain ⟨empty, given, front, all, -⟩ := holds.told rfl
  have accepts : setting.session.Accepts w := disciplined.accepts h.child h.serves.free
  have helper := h.serves.isHelper
  have cut : Cut w c.given w [] := given ▸ cut_framesBytes w
  have exit : c.behaviour.program.exit c.deliveries true = some 0 := by
    rw [h.serves.behaviour, helper.program]
    exact exit_helper_of_finish helper.level (cut.wholeFrames_eq accepts.sendable) accepts handles
      (by simp [all, Frame.bare]) true
  have closed := Child.closePipes_of_empty empty
  have ended : c.closePipes.ended? = some 0 := by
    rw [closed]
    show c.code.or (c.behaviour.program.exit c.deliveries true) = some 0
    rw [h.serves.running, exit]
    rfl
  have unasked : c.closePipes.code = none := by
    rw [closed]
    exact h.serves.running
  have lasts (limit : Option Nat) :
      c.closePipes.endsWithin limit = b.isPrompt limit c.deliveries := by
    rw [Child.endsWithin, Child.lasts?, unasked, Option.isSome_none, if_neg Bool.false_ne_true,
      ended, Option.map_some, Option.any_some, closed, ← h.serves.behaviour]
    rfl
  have input : c.closePipes.inputOpen = false := by rw [closed]
  have output : c.closePipes.outputOpen = false := rfl
  obtain ⟨c', tears, state⟩ := tearsTo_tearDown h.child
  rw [state]
  generalize (Supervisor.tearDown s).result = result at tears ⊢
  cases tears with
  | stuck endless =>
      rw [(Child.closeInput_of_empty empty).1] at endless
      cases endless
  | awaited back lasting limitless =>
      rw [limitless, Child.endsWithin_none, ended] at lasting
      cases lasting
  | ended back ends =>
      rw [lasts] at ends
      exact ⟨rfl, _, rfl, input, output, by rw [if_pos ends]; exact ended⟩
  | killed back lasting limited =>
      rw [lasts] at lasting
      refine ⟨rfl, _, rfl, input, output, ?_⟩
      rw [lasting, if_neg Bool.false_ne_true, Child.kill, unasked]
      rfl

/-- Closing a helper raises nothing and leaves it ended well or, where it is not given the time for
that, killed. -/
theorem Tends.close (h : s.Tends b setting c) (disciplined : s.Disciplined w)
    (handles : setting.session.HandlesAll setting.compiler (w ++ Call.close.written s)) :
    (Supervisor.close s).result = .ok () ∧
      ∃ c' deliveries, (Supervisor.close s).state = (Supervisor.finishOwed s).state.withChild c' ∧
        c'.inputOpen = false ∧ c'.outputOpen = false ∧
        c'.code = some (if b.isPrompt (patience s.exitTimeout) deliveries then 0
          else Child.killedCode) := by
  have handlesBefore := Session.handlesAll_of_prefix handles (List.prefix_append w _)
  obtain ⟨said, ⟨c₁, tends⟩, told⟩ := h.finishOwed disciplined handlesBefore
  obtain ⟨torn, c', state, input, output, code⟩ :=
    tends.tearDown (disciplined.finishOwed h.child) handles told
  have back : (Supervisor.finishOwed s).result ≠ .error .never := by
    rw [said]
    nofun
  obtain ⟨state', result⟩ := ensuring_eq Supervisor.tearDown back
  rw [(finishOwed_keeps h.child).1] at code
  rw [close_eq h.child, result, state', torn, state]
  exact ⟨said, c', c₁.deliveries, rfl, input, output, code⟩

/-- A helper that is given the time for that has ended well when it has been closed. -/
theorem Tends.retired_close (h : s.Tends b setting c) (disciplined : s.Disciplined w)
    (prompt : b.EndsWithin (patience s.exitTimeout))
    (handles : setting.session.HandlesAll setting.compiler (w ++ Call.close.written s)) :
    ∃ c', (Supervisor.close s).state.Retired c' := by
  obtain ⟨-, c', deliveries, state, input, output, code⟩ := h.close disciplined handles
  rw [prompt deliveries, if_pos rfl] at code
  rw [state]
  exact ⟨c', rfl, input, output, code⟩

/-! ## Behind the closing -/

/-- Calls change nothing about a child that has been closed. -/
theorem Retired.step (h : s.Retired c) (call : Call) : (call.state s).Retired c := by
  have deaf := listener?_of_closed h.child h.input
  cases call with
  | start files l =>
      rw [Call.state, state_start_of_child files l h.child]
      exact h
  | send a arguments =>
      rw [Call.state, (send_refused (.inl deaf)).2]
      exact h
  | compile =>
      cases first : s.compileRequested with
      | true =>
          rw [Call.state, (compile_again first).2]
          exact h
      | false =>
          rw [Call.state, (compile_refused first deaf).2]
          exact ⟨h.child, h.input, h.output, h.code⟩
  | finish =>
      rw [Call.state, (finish_refused deaf).2]
      exact h
  | close =>
      have shut : c.IsShut := ⟨h.input, h.output, by rw [h.code]; rfl⟩
      rw [Call.state, (close_of_shut h.child shut).2]
      exact h

theorem Retired.run (h : s.Retired c) (calls : List Call) : (s.run calls).Retired c := by
  induction calls generalizing s with
  | nil => exact h
  | cons call calls ih => exact ih (h.step call)

/-! ## Runs -/

/-- Each call leaves a helper to be talked to, or closes it when it has ended well. -/
theorem Tends.step (h : s.Tends b setting c) (disciplined : s.Disciplined w) {call : Call}
    (short : call.IsShort) (prompt : b.EndsWithin (patience s.exitTimeout))
    (handles : setting.session.HandlesAll setting.compiler (w ++ call.written s)) :
    (∃ c', (call.state s).Tends b setting c') ∨ ∃ c', (call.state s).Retired c' := by
  have handlesBefore := Session.handlesAll_of_prefix handles (List.prefix_append w _)
  cases call with
  | start files l =>
      rw [Call.state, state_start_of_child files l h.child]
      exact .inl ⟨c, h⟩
  | send a arguments => exact .inl (h.send disciplined handlesBefore a arguments short)
  | compile => exact .inl (h.compile disciplined handlesBefore)
  | finish => exact .inl (h.finish disciplined handlesBefore).1
  | close => exact .inr (h.retired_close disciplined prompt handles)

/-- All calls leave a helper to be talked to, or closed when it has ended well. -/
theorem Tends.run (h : s.Tends b setting c) (disciplined : s.Disciplined w) {calls : List Call}
    (short : ∀ call ∈ calls, call.IsShort) (prompt : b.EndsWithin (patience s.exitTimeout))
    (handles : setting.session.HandlesAll setting.compiler (w ++ s.written calls)) :
    (∃ c', (s.run calls).Tends b setting c') ∨ ∃ c', (s.run calls).Retired c' := by
  induction calls generalizing s c w with
  | nil => exact .inl ⟨c, h⟩
  | cons call calls ih =>
      have shortFirst := short call List.mem_cons_self
      rw [written, ← List.append_assoc] at handles
      have handlesFirst := Session.handlesAll_of_prefix handles (List.prefix_append _ _)
      rcases h.step disciplined shortFirst prompt handlesFirst with ⟨c', tends⟩ | ⟨c', retired⟩
      · rw [← (state_keeps call s).1] at prompt
        exact ih tends (disciplined.step shortFirst)
          (fun call' later => short call' (List.mem_cons_of_mem _ later)) prompt handles
      · exact .inr ⟨c', retired.run calls⟩

/-- A helper that was started well is there to be talked to. -/
theorem exists_tends_of_start {files : FileSystem} {l : Launcher}
    (started : (Supervisor.start files l s).result = .ok ())
    (helper : (l.behaviour files).IsHelper setting) :
    ∃ c, (Supervisor.start files l s).state.Tends (l.behaviour files) setting c := by
  obtain ⟨-, arguments, state, -⟩ := exists_fresh_of_start started
  refine ⟨.fresh arguments (l.behaviour files), ?_⟩
  rw [state]
  exact ⟨rfl, ⟨rfl, helper, rfl, rfl⟩, rfl⟩

end Supervisor

end PluginBuild
