/-
# Proofs.Launch.Start -- all that starting comes to

Starting comes to a child that is ready (`Launcher.Readies`), to an error with nothing left of
the attempt (`Attempt.IsUndone`), or to an error with the child left running, where the operating
system refuses the time for which the child is waited for (`Launcher.Strands`).  `LaunchesTo` has
one case for each and says when it happens.  `launchesTo_start` goes through the steps of starting
once, and everything else about starting is read off it.
-/
import PluginBuild.Proofs.Launch.CommandLine
import PluginBuild.Proofs.Launch.Supervisor

namespace PluginBuild

set_option autoImplicit false

/-! ## When a child is ready -/

/-- Whether a new child becomes ready: it says so on its descriptor or, without one, has not
ended when it is looked at. -/
def Behaviour.BecomesReady (b : Behaviour) (descriptor : Option Nat) : Prop :=
  match descriptor with
  | some _ => b.readiness = .signals
  | none => (b.program.status [] false).exit = none

/-- Whether starting a helper comes to a child that is ready. -/
structure Launcher.Readies (l : Launcher) (files : FileSystem) (helper : Path)
    (platform : Platform) : Prop where
  there : files.exists? helper = .ok true
  launches : ∃ mode, Launch.mode platform = .ok mode
  spawns : (l.behaviour files).startError = none
  ready : (l.behaviour files).BecomesReady l.descriptor

/-- Whether a child, if it is waited for at all, is waited for with a time that the operating
system takes. -/
def Launcher.CanWait (l : Launcher) (timeout : Number.Binary64) : Prop :=
  l.descriptor.isSome = true → WaitError.of? timeout = none

/-- Whether starting a helper fails with the child left running: it is there and cannot be
waited for. -/
structure Launcher.Strands (l : Launcher) (files : FileSystem) (helper : Path)
    (platform : Platform) (timeout : Number.Binary64) : Prop where
  there : files.exists? helper = .ok true
  launches : ∃ mode, Launch.mode platform = .ok mode
  spawns : (l.behaviour files).startError = none
  unwaited : ¬l.CanWait timeout

/-! ## When nothing is left -/

namespace Child

/-- A child that is given up: it is killed if it has not ended, and both pipes are closed. -/
def givenUp (c : Child) : Child :=
  { (if c.ended?.isSome then c.poll else c.kill) with inputOpen := false, outputOpen := false }

theorem code_givenUp (c : Child) : c.givenUp.code = some (c.ended?.getD killedCode) := by
  unfold givenUp
  cases ended : c.ended? with
  | some code => exact ended
  | none =>
      have unknown : c.code = none := (Option.or_eq_none_iff.1 ended).1
      simp [kill, unknown]

theorem ended?_fresh (arguments : List String) (b : Behaviour) :
    (fresh arguments b).ended? = (b.program.status [] false).exit := ended?_of_open rfl rfl

/-- Whether a new child was given up: it got nothing, both pipes to it are closed, and its exit
code is known, its own if it had ended and else that of a child that was killed. -/
structure IsReaped (c : Child) (b : Behaviour) : Prop where
  behaviour : c.behaviour = b
  input : c.inputOpen = false
  output : c.outputOpen = false
  unsent : c.deliveries = []
  code : c.code = some ((b.program.status [] false).exit.getD killedCode)

theorem isReaped_givenUp (arguments : List String) (b : Behaviour) :
    (fresh arguments b).givenUp.IsReaped b where
  behaviour := by
    unfold givenUp
    split <;> rfl
  input := rfl
  output := rfl
  unsent := by
    unfold givenUp
    split <;> rfl
  code := by rw [code_givenUp, ended?_fresh]

end Child

namespace Attempt

/-- Whether an attempt has been undone: the operating system refused, or the child was given
up. -/
def IsUndone (b : Behaviour) : Attempt → Prop
  | .refused _ => b.startError.isSome = true
  | .started c => c.IsReaped b

end Attempt

namespace Supervisor

variable {s : Supervisor} {c : Child} {files : FileSystem} {l : Launcher}

/-! ## The steps of starting -/

/-- A child that is given up is remembered, and is no longer the child. -/
theorem abort_eq (idle : s.child = none) (empty : c.buffer = []) :
    (abort c (s.withChild c)).result = .ok (c.ended?.getD Child.killedCode) ∧
      (abort c (s.withChild c)).state =
        { s with former := s.former ++ [.started c.givenUp] } := by
  have rest : ∀ c₁ : Child, c₁.buffer = [] →
      let o := (do
        Act.modify fun s => { s with child := some c₁ }
        closePipes
        Act.modify fun s => { s with child := none, former := s.attempts }
        return c₁.code.getD Child.killedCode : Step Int) (s.withChild c)
      o.result = .ok (c₁.code.getD Child.killedCode) ∧
        o.state = { s with former := s.former ++ [.started c₁.closePipes] } := by
    intro c₁ empty
    have back : (Child.closeInput c₁).result ≠ .error .endless := by
      rw [(Child.closeInput_of_empty empty).1]
      nofun
    obtain ⟨closed, state⟩ := (closePipes_eq (child_withChild s c₁)).1 back
    have put : { s.withChild c with child := some c₁ } = s.withChild c₁ := rfl
    simp only [Act.result_bind, Act.state_bind, Act.result_modify, Act.state_modify, put, closed,
      state]
    refine ⟨rfl, ?_⟩
    show { s with child := none, former := s.former ++ [Attempt.started c₁.closePipes] } = _
    rw [← idle]
  unfold abort Child.givenUp
  cases ended : c.ended? with
  | some code =>
      obtain ⟨result, state⟩ := rest c.poll empty
      rw [Child.closePipes_of_empty (c := c.poll) empty] at state
      refine ⟨result.trans ?_, state⟩
      rw [Child.code_poll, ended]
  | none =>
      have unknown : c.code = none := (Option.or_eq_none_iff.1 ended).1
      obtain ⟨result, state⟩ := rest c.kill empty
      rw [Child.closePipes_of_empty (c := c.kill) empty] at state
      refine ⟨result.trans ?_, state⟩
      rw [Child.kill, unknown]
      rfl

/-- All that starting can lead to where there is no child, and when it does. -/
inductive LaunchesTo (l : Launcher) (files : FileSystem) (s : Supervisor) :
    Except SupervisorError Unit → Supervisor → Prop where
  /-- there is a child that is ready -/
  | ready (arguments : List String) (readies : l.Readies files s.helper s.platform)
      (waits : l.CanWait s.readyTimeout) :
      LaunchesTo l files s (.ok ()) (s.withChild (.fresh arguments (l.behaviour files)))
  /-- nothing is left; where the helper can be looked for, this is the error of a launch -/
  | undone (e : SupervisorError) (past : Option Attempt)
      (unready : ¬l.Readies files s.helper s.platform)
      (kept : ¬l.Strands files s.helper s.platform s.readyTimeout)
      (known : ∀ isThere, files.exists? s.helper = .ok isThere → ∃ cause, e = .launch cause)
      (cleared : ∀ a ∈ past, a.IsUndone (l.behaviour files)) :
      LaunchesTo l files s (.error e) { s with former := s.former ++ past.toList }
  /-- there is a child that is not waited for -/
  | stranded (cause : WaitError) (arguments : List String)
      (strands : l.Strands files s.helper s.platform s.readyTimeout)
      (refused : WaitError.of? s.readyTimeout = some cause) :
      LaunchesTo l files s (.error (.wait cause))
        (s.withChild (.fresh arguments (l.behaviour files)))

/-- A child that does not become ready is given up. -/
theorem launchesTo_giveUp (idle : s.child = none) (files : FileSystem) (arguments : List String)
    (waits : l.CanWait s.readyTimeout)
    (unready : ¬(l.behaviour files).BecomesReady l.descriptor) (cause : Int → LaunchError) :
    let c := Child.fresh arguments (l.behaviour files)
    let o := (do
      let code ← abort c
      Act.fail (.launch (cause code)) : Step Unit) (s.withChild c)
    LaunchesTo l files s o.result o.state := by
  intro c o
  obtain ⟨aborted, state⟩ := abort_eq (c := c) idle rfl
  have result : o.result = .error (.launch (cause (c.ended?.getD Child.killedCode))) := by
    simp [o, aborted]
  have state' : o.state = { s with former := s.former ++ (some (.started c.givenUp)).toList } := by
    simp [o, aborted, state]
  rw [result, state']
  refine .undone _ _ (fun readies => unready readies.ready)
    (fun strands => strands.unwaited waits) (fun _ _ => ⟨_, rfl⟩) ?_
  rintro a ⟨⟩
  exact Child.isReaped_givenUp arguments _

theorem launchesTo_awaitReady (idle : s.child = none) (arguments : List String)
    (there : files.exists? s.helper = .ok true)
    (launches : ∃ mode, Launch.mode s.platform = .ok mode)
    (spawns : (l.behaviour files).startError = none) :
    let c := Child.fresh arguments (l.behaviour files)
    let o := awaitReady l (l.behaviour files).readiness c (s.withChild c)
    LaunchesTo l files s o.result o.state := by
  intro c o
  have ready (becomes : (l.behaviour files).BecomesReady l.descriptor)
      (waits : l.CanWait s.readyTimeout) : LaunchesTo l files s (.ok ()) (s.withChild c) :=
    .ready arguments ⟨there, launches, spawns, becomes⟩ waits
  have giveUp := launchesTo_giveUp (l := l) idle files arguments
  have stranded (cause : WaitError) (unwaited : ¬l.CanWait s.readyTimeout)
      (refused : WaitError.of? s.readyTimeout = some cause) :
      LaunchesTo l files s (.error (.wait cause)) (s.withChild c) :=
    .stranded cause arguments ⟨there, launches, spawns, unwaited⟩ refused
  simp only [o]
  unfold awaitReady
  simp only [Launcher.CanWait, Behaviour.BecomesReady] at ready giveUp stranded
  have same : (s.withChild c).readyTimeout = s.readyTimeout := rfl
  cases watched : l.descriptor with
  | none =>
      rw [watched] at ready giveUp
      have looked : c.ended? = ((l.behaviour files).program.status [] false).exit :=
        Child.ended?_fresh arguments _
      rw [← looked] at ready giveUp
      cases ended : c.ended? with
      | none => simpa [ended] using ready ended nofun
      | some code => simpa [ended] using giveUp nofun (by simp [ended]) fun _ => .endedAtOnce
  | some n =>
      rw [watched] at ready giveUp stranded
      cases refused : WaitError.of? s.readyTimeout with
      | some cause => simpa [same, refused] using stranded cause (by simp [refused]) refused
      | none =>
          rw [refused] at ready giveUp
          cases readiness : (l.behaviour files).readiness with
          | signals => simpa [same, refused] using ready readiness fun _ => rfl
          | silent =>
              simpa [same, refused] using
                giveUp (fun _ => rfl) (by simp [readiness]) fun _ => .notReady s.readyTimeout
          | closes =>
              simpa [same, refused] using
                giveUp (fun _ => rfl) (by simp [readiness]) .endedEarly

theorem launchesTo_spawn (idle : s.child = none) (arguments : List String)
    (there : files.exists? s.helper = .ok true)
    (launches : ∃ mode, Launch.mode s.platform = .ok mode) :
    let o := spawn l (l.behaviour files) arguments s
    LaunchesTo l files s o.result o.state := by
  intro o
  simp only [o]
  unfold spawn
  cases spawns : (l.behaviour files).startError with
  | some cause =>
      have unstarted : ¬(l.behaviour files).startError = none := by simp [spawns]
      refine .undone _ (some (.refused arguments)) (fun readies => unstarted readies.spawns)
        (fun strands => unstarted strands.spawns) (fun _ _ => ⟨.notStarted cause, rfl⟩) ?_
      rintro a ⟨⟩
      show (l.behaviour files).startError.isSome = true
      rw [spawns]
      rfl
  | none =>
      simp only [Act.result_bind, Act.result_modify, Act.state_bind, Act.state_modify, log,
        Act.result_log, Act.state_log]
      exact launchesTo_awaitReady idle arguments there launches spawns

theorem launchesTo_start (idle : s.child = none) (files : FileSystem) (l : Launcher) :
    LaunchesTo l files s (start files l s).result (start files l s).state := by
  have unbegun (e : SupervisorError)
      (missing : ¬(files.exists? s.helper = .ok true ∧ ∃ mode, Launch.mode s.platform = .ok mode))
      (known : ∀ isThere, files.exists? s.helper = .ok isThere → ∃ cause, e = .launch cause) :
      LaunchesTo l files s (.error e) s := by
    have undone : LaunchesTo l files s (.error e) { s with former := s.former ++ [] } := by
      refine .undone e none (fun readies => missing ?_) (fun strands => missing ?_) known
        fun a absent => absurd absent (Option.not_mem_none a)
      · exact ⟨readies.there, readies.launches⟩
      · exact ⟨strands.there, strands.launches⟩
    rwa [List.append_nil] at undone
  cases looked : files.exists? s.helper with
  | error cause =>
      simpa [start, idle, looked] using unbegun (.file cause) (by simp [looked]) (by simp [looked])
  | ok isThere =>
      cases isThere with
      | false =>
          simpa [start, idle, looked] using
            unbegun (.launch (.helperAbsent s.helper)) (by simp [looked]) (fun _ _ => ⟨_, rfl⟩)
      | true =>
          cases known : Launch.mode s.platform with
          | error cause =>
              simpa [start, idle, looked, known] using
                unbegun (.launch cause) (by simp [known]) (fun _ _ => ⟨_, rfl⟩)
          | ok mode =>
              obtain ⟨arguments, command⟩ :=
                Launch.exists_command l.interpreter s.helper known (helperArguments l)
              simpa [start, idle, looked, known, command] using
                launchesTo_spawn (l := l) idle arguments looked ⟨mode, known⟩

/-- Starting refuses where there is a child already. -/
theorem start_of_child (files : FileSystem) (l : Launcher) (child : s.child = some c) :
    start files l s = ⟨.error .alreadyStarted, s, []⟩ := by
  unfold start
  rw [Act.bind_of_ok (Act.result_get s)]
  simp [child]

/-- All that starting can lead to: nothing, a refused attempt, a child that was given up and
never got a byte, one that was not waited for, and one that is ready. -/
inductive StartsTo (b : Behaviour) (descriptor : Option Nat) (s : Supervisor) :
    Except SupervisorError Unit → Supervisor → Prop where
  | refused (e : SupervisorError) : StartsTo b descriptor s (.error e) s
  | notStarted (e : SupervisorError) (arguments : List String) (idle : s.child = none) :
      StartsTo b descriptor s (.error e) { s with former := s.former ++ [.refused arguments] }
  | givenUp (e : SupervisorError) (c : Child) (idle : s.child = none) (silent : c.deliveries = []) :
      StartsTo b descriptor s (.error e) { s with former := s.former ++ [.started c] }
  | unwatched (e : SupervisorError) (arguments : List String) (idle : s.child = none) :
      StartsTo b descriptor s (.error e) (s.withChild (.fresh arguments b))
  | ready (arguments : List String) (idle : s.child = none)
      (runs : (Child.fresh arguments b).ended? = none ∨ b.readiness = .signals) :
      StartsTo b descriptor s (.ok ()) (s.withChild (.fresh arguments b))

theorem startsTo_start (files : FileSystem) (l : Launcher) (s : Supervisor) :
    StartsTo (l.behaviour files) l.descriptor s (start files l s).result
      (start files l s).state := by
  cases child : s.child with
  | some c =>
      rw [start_of_child files l child]
      exact .refused _
  | none =>
      have launches := launchesTo_start child files l
      generalize (start files l s).result = result at launches
      generalize (start files l s).state = s' at launches
      cases launches with
      | ready arguments readies waits =>
          refine .ready arguments child ?_
          have becomes := readies.ready
          unfold Behaviour.BecomesReady at becomes
          split at becomes
          · exact .inr becomes
          · exact .inl ((Child.ended?_fresh arguments _).trans becomes)
      | undone e past unready kept known cleared =>
          cases past with
          | none =>
              rw [Option.toList_none, List.append_nil]
              exact .refused e
          | some attempt =>
              cases attempt with
              | refused arguments => exact .notStarted e arguments child
              | started c => exact .givenUp e c child (Child.IsReaped.unsent (cleared _ rfl))
      | stranded cause arguments strands refused => exact .unwatched _ arguments child

/-- Starting succeeds exactly where the child gets ready and can be waited for. -/
theorem start_ok_iff (idle : s.child = none) : (start files l s).result = .ok () ↔
    l.Readies files s.helper s.platform ∧ l.CanWait s.readyTimeout := by
  have launches := launchesTo_start idle files l
  generalize (start files l s).result = result at launches ⊢
  generalize (start files l s).state = s' at launches
  cases launches with
  | ready arguments readies waits => exact iff_of_true rfl ⟨readies, waits⟩
  | undone e past unready kept known cleared => exact iff_of_false nofun fun h => unready h.1
  | stranded cause arguments strands refused =>
      exact iff_of_false nofun fun h => strands.unwaited h.2

/-- Starting succeeds where the helper is there and says in time that it is ready. -/
theorem start_of_signals {files : FileSystem} {l : Launcher} {arguments : List String} {n : Nat}
    (idle : s.child = none) (there : files.exists? s.helper = .ok true)
    (command : (Launch.command l.interpreter s.helper s.platform (helperArguments l) ()).result =
      .ok arguments)
    (descriptor : l.descriptor = some n) (patient : WaitError.of? s.readyTimeout = none)
    (spawns : (l.behaviour files).startError = none)
    (signals : (l.behaviour files).readiness = .signals) : (start files l s).result = .ok () := by
  have launches : ∃ mode, Launch.mode s.platform = .ok mode := by
    cases known : Launch.mode s.platform with
    | ok mode => exact ⟨mode, rfl⟩
    | error cause => simp [Launch.command, known] at command
  have ready : (l.behaviour files).BecomesReady l.descriptor := by
    rw [descriptor]
    exact signals
  exact (start_ok_iff idle).2 ⟨⟨there, launches, spawns, ready⟩, fun _ => patient⟩

theorem state_start_of_child (files : FileSystem) (l : Launcher) (child : s.child = some c) :
    (start files l s).state = s := by rw [start_of_child files l child]

/-- Where starting succeeds there is a new child, which has not ended or says that it is
ready. -/
theorem exists_fresh_of_start {files : FileSystem} {l : Launcher}
    (started : (start files l s).result = .ok ()) :
    s.child = none ∧ ∃ arguments, let c := Child.fresh arguments (l.behaviour files)
      (start files l s).state = s.withChild c ∧
        (c.ended? = none ∨ (l.behaviour files).readiness = .signals) := by
  have starts := startsTo_start files l s
  rw [started] at starts
  generalize (start files l s).state = s' at starts ⊢
  cases starts with
  | ready arguments idle runs => exact ⟨idle, arguments, rfl, runs⟩

end Supervisor

end PluginBuild
