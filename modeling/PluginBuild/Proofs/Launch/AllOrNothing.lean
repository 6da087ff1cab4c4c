/-
# Proofs.Launch.AllOrNothing -- what is left of a start that fails

Starting succeeds with a child that is ready, or it fails with nothing left: the child that it
started, if any, has been given up, and a later start comes to what it would come to for a new
supervisor (`LaunchedWhole`).  The one exception is a time to wait that the operating system
refuses (`Launcher.Strands`): the child is then left running, and nothing can be started any more
(`start_of_strands`).

A new supervisor knows nothing of what was attempted and asked before.  Starting does not see
that either (`commutes_start`), and so what it comes to is the same (`start_eq_renewed`).
-/
import PluginBuild.Proofs.Launch.Stream

namespace PluginBuild.Supervisor

set_option autoImplicit false

variable {s : Supervisor} {files : FileSystem} {l : Launcher}

/-! ## What starting does not see -/

/-- The supervisor with everything in front of its child that has become of another. -/
def following (s past : Supervisor) : Supervisor :=
  { s with
    compileRequested := past.compileRequested
    finished := past.finished
    former := past.former ++ s.former }

theorem commutes_onChild (past : Supervisor) (x : Child.Step Unit) :
    (onChild x).Commutes (following · past) := by
  intro s
  have same : (s.following past).child = s.child := rfl
  unfold onChild
  rw [same]
  cases s.child <;> rfl

theorem commutes_closePipes (past : Supervisor) : closePipes.Commutes (following · past) := by
  refine ((commutes_onChild past _).handle fun e => ?_).bind fun _ =>
    Act.commutes_modify fun _ => rfl
  exact (Act.commutes_log _ _ _).ite (Act.commutes_fail _)

theorem commutes_put (past : Supervisor) (c : Child) :
    (Act.modify fun s => { s with child := some c } : Step Unit).Commutes (following · past) :=
  Act.commutes_modify fun _ => rfl

theorem commutes_abort (past : Supervisor) (c : Child) :
    (abort c).Commutes (following · past) := by
  have forgets (s : Supervisor) :
      { s.following past with child := none, former := (s.following past).attempts } =
        { s with child := none, former := s.attempts }.following past := by
    simp [following, attempts]
  exact (commutes_put past _).bind fun _ => (commutes_closePipes past).bind fun _ =>
    (Act.commutes_modify forgets).bind fun _ => Act.commutes_pure _

theorem commutes_awaitReady (past : Supervisor) (l : Launcher) (readiness : Readiness)
    (c : Child) : (awaitReady l readiness c).Commutes (following · past) := by
  have gives (cause : Int → LaunchError) :
      (do let code ← abort c; Act.fail (.launch (cause code)) : Step Unit).Commutes
        (following · past) :=
    (commutes_abort past c).bind fun _ => Act.commutes_fail _
  unfold awaitReady
  cases l.descriptor with
  | none => exact (gives fun _ => .endedAtOnce).ite (Act.commutes_pure _)
  | some n =>
      refine Act.commutes_get_bind (fun _ => rfl) fun s => ?_
      dsimp only
      cases WaitError.of? s.readyTimeout with
      | some cause => exact Act.commutes_fail _
      | none =>
          cases readiness with
          | signals => exact Act.commutes_pure _
          | silent => exact gives fun _ => .notReady s.readyTimeout
          | closes => exact gives .endedEarly

theorem commutes_spawn (past : Supervisor) (l : Launcher) (b : Behaviour)
    (arguments : List String) : (spawn l b arguments).Commutes (following · past) := by
  have remembers (s : Supervisor) :
      { s.following past with former := (s.following past).former ++ [Attempt.refused arguments] } =
        { s with former := s.former ++ [Attempt.refused arguments] }.following past := by
    simp [following]
  unfold spawn
  cases b.startError with
  | some cause => exact (Act.commutes_modify remembers).bind fun _ => Act.commutes_fail _
  | none =>
      exact (commutes_put past _).bind fun _ => (Act.commutes_log _ _ _).bind fun _ =>
        commutes_awaitReady past l _ _

theorem commutes_start (past : Supervisor) (files : FileSystem) (l : Launcher) :
    (start files l).Commutes (following · past) := by
  refine Act.commutes_get_bind (fun _ => rfl) fun s => (Act.commutes_fail _).ite ?_
  refine (Act.commutes_ofExcept _).bind fun isThere => (Act.commutes_fail _).ite ?_
  refine (Act.commutes_ofExcept _).bind fun _ => ?_
  exact (Act.commutes_free _).bind fun arguments => commutes_spawn past l _ arguments

/-- A new supervisor of the same helper. -/
def renewed (s : Supervisor) : Supervisor :=
  fresh s.helper s.platform s.readyTimeout s.exitTimeout

/-- Where there is no child, starting comes to what it comes to for a new supervisor. -/
theorem start_eq_renewed (idle : s.child = none) (files : FileSystem) (l : Launcher) :
    let new := start files l s.renewed
    start files l s = ⟨new.result, new.state.following s, new.events⟩ := by
  have same : s.renewed.following s = s := by
    simp [following, renewed, fresh, ← idle]
  have commutes := commutes_start s files l s.renewed
  dsimp only at commutes
  rwa [same] at commutes

/-! ## The law -/

/-- Whether starting, with this outcome, did all or nothing: it succeeded with a child that is
ready and can be written to and read from, or it failed, what it attempted has been undone, and
everything that can be started later comes to what it comes to for a new supervisor. -/
def LaunchedWhole (s : Supervisor) (files : FileSystem) (l : Launcher)
    (o : Outcome Supervisor SupervisorError Unit) : Prop :=
  let b := l.behaviour files
  (o.result = .ok () ∧ b.BecomesReady l.descriptor ∧
      ∃ arguments, o.state = s.withChild (.fresh arguments b)) ∨
    (∃ e, o.result = .error e) ∧
      (∃ past : Option Attempt, o.state = { s with former := s.former ++ past.toList } ∧
        ∀ a ∈ past, a.IsUndone b) ∧
      ∀ files l, let new := start files l s.renewed
        start files l o.state = ⟨new.result, new.state.following o.state, new.events⟩

/-- A start that failed and did nothing has left no child. -/
theorem LaunchedWhole.child_eq_none {o : Outcome Supervisor SupervisorError Unit}
    (whole : s.LaunchedWhole files l o) (idle : s.child = none) {e : SupervisorError}
    (failed : o.result = .error e) : o.state.child = none := by
  rcases whole with ⟨succeeded, -⟩ | ⟨-, ⟨past, state, -⟩, -⟩
  · rw [succeeded] at failed
    cases failed
  · rw [state]
    exact idle

/-- A child that cannot be waited for is left running. -/
theorem start_of_strands (idle : s.child = none)
    (strands : l.Strands files s.helper s.platform s.readyTimeout) :
    let o := start files l s
    (∃ cause, WaitError.of? s.readyTimeout = some cause ∧ o.result = .error (.wait cause)) ∧
      ∃ arguments, o.state = s.withChild (.fresh arguments (l.behaviour files)) := by
  intro o
  have launches : LaunchesTo l files s o.result o.state := launchesTo_start idle files l
  cases result : o.result with
  | ok a =>
      rw [result] at launches
      generalize o.state = s' at launches
      cases launches with
      | ready arguments readies waits => exact absurd waits strands.unwaited
  | error e =>
      rw [result] at launches
      generalize o.state = s' at launches ⊢
      cases launches with
      | undone e past unready kept known cleared => exact absurd strands kept
      | stranded cause arguments strands refused => exact ⟨⟨cause, refused, rfl⟩, arguments, rfl⟩

/-- Starting where there is no child does all or nothing, unless the child is there and the
operating system refuses to wait for it.  It then fails with the child left running, and nothing
can be started any more. -/
theorem whole_iff_not_strands (idle : s.child = none) (files : FileSystem) (l : Launcher) :
    let o := start files l s
    (s.LaunchedWhole files l o ↔ ¬l.Strands files s.helper s.platform s.readyTimeout) ∧
      (o.result = .ok () ↔ l.Readies files s.helper s.platform ∧ l.CanWait s.readyTimeout) ∧
      (l.Strands files s.helper s.platform s.readyTimeout →
        (∃ cause, WaitError.of? s.readyTimeout = some cause ∧ o.result = .error (.wait cause)) ∧
        (∃ arguments, o.state = s.withChild (.fresh arguments (l.behaviour files))) ∧
        ∀ files l, start files l o.state = ⟨.error .alreadyStarted, o.state, []⟩) := by
  intro o
  have launches : LaunchesTo l files s o.result o.state := launchesTo_start idle files l
  refine ⟨⟨fun whole strands => ?_, fun kept => ?_⟩, start_ok_iff idle, fun strands => ?_⟩
  · obtain ⟨⟨cause, -, failed⟩, arguments, state⟩ := start_of_strands idle strands
    have gone := whole.child_eq_none idle failed
    rw [state] at gone
    cases gone
  · generalize o = o at launches ⊢
    rcases o with ⟨result, s', events⟩
    dsimp only at launches
    cases launches with
    | ready arguments readies waits => exact .inl ⟨rfl, readies.ready, arguments, rfl⟩
    | undone e past unready kept known cleared =>
        exact .inr ⟨⟨e, rfl⟩, ⟨past, rfl, cleared⟩,
          start_eq_renewed (s := { s with former := s.former ++ past.toList }) idle⟩
    | stranded cause arguments strands refused => exact absurd strands kept
  · obtain ⟨failed, arguments, state⟩ := start_of_strands idle strands
    refine ⟨failed, ⟨arguments, state⟩, fun files l => ?_⟩
    exact start_of_child (c := .fresh arguments _) files l (by rw [state]; rfl)

/-- What starts a child that never says a word and never ends by itself. -/
def silentLauncher : Launcher :=
  { quietLauncher with behaviour := fun _ =>
      { startError := none, readiness := .silent, deaf := false, program := .script [] 0 none true } }

/-- A child that does not say in time that it is ready is killed, and a helper can be started
then. -/
theorem whole_silent :
    let s := fresh quietPath .linux Settings.defaultTimeout defaultExitTimeout
    let o := start quietFiles silentLauncher s
    s.LaunchedWhole quietFiles silentLauncher o ∧ o.result ≠ .ok () := by
  intro s o
  obtain ⟨whole, succeeds, -⟩ := whole_iff_not_strands (s := s) rfl quietFiles silentLauncher
  refine ⟨whole.2 fun strands => strands.unwaited fun _ => patient_default, fun started => ?_⟩
  have signals : Readiness.silent = .signals := (succeeds.1 started).1.ready
  cases signals

/-- With a negative time to wait the same child is left running. -/
theorem not_whole_negative :
    let s := fresh quietPath .linux (.ofDecimal true 1 0) defaultExitTimeout
    let o := start quietFiles silentLauncher s
    ¬s.LaunchedWhole quietFiles silentLauncher o ∧ o.result = .error (.wait .negative) ∧
      (∃ c, o.state.child = some c ∧ c.ended? = none) ∧
      (start quietFiles silentLauncher o.state).result = .error .alreadyStarted := by
  intro s o
  have refused : WaitError.of? (.ofDecimal true 1 0) = some .negative := by decide +kernel
  have strands : silentLauncher.Strands quietFiles quietPath .linux (.ofDecimal true 1 0) := by
    refine ⟨exists_quietPath, ⟨.interpreter, rfl⟩, rfl, fun waits => ?_⟩
    rw [waits rfl] at refused
    cases refused
  obtain ⟨⟨cause, refused', failed⟩, arguments, state⟩ := start_of_strands (s := s) rfl strands
  obtain rfl : WaitError.negative = cause := Option.some.inj (refused.symm.trans refused')
  have child : o.state.child = some (.fresh arguments (silentLauncher.behaviour quietFiles)) := by
    rw [state]
    rfl
  refine ⟨fun whole => ?_, failed, ⟨_, child, rfl⟩, ?_⟩
  · have gone := whole.child_eq_none rfl failed
    rw [child] at gone
    cases gone
  · rw [start_of_child _ _ child]

end PluginBuild.Supervisor
