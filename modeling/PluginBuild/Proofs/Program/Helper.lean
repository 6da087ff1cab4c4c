/-
# Proofs.Program.Helper -- how the helper ends on whole frames

Given frames that its session accepts and its compiler gets through, the helper writes the
results of replaying them, and it waits for more or has finished, as the frames say
(`run_of_frames`).  Without a level for its log records it ends before it reads any.
-/
import PluginBuild.Program.Helper
import PluginBuild.Proofs.Session.Stream

namespace PluginBuild.Helper

set_option autoImplicit false

open PluginBuild.Wire

variable {s : Setting} {fs : List Frame}

/-- The session of a helper that is given no options. -/
def Setting.session (s : Setting) : Session := .fresh (some Session.defaultName) (some s.shim) none

/-- Whether a helper knows the level of its log records. -/
def Setting.knowsLevel (s : Setting) : Bool :=
  match (Log.Threshold.named s.settings.logLevel).number? with
  | .ok _ => true
  | .error _ => false

theorem run_nil (s : Setting) (input : List UInt8) :
    run s [] input = serve s (some Session.defaultName) none input := rfl

theorem run_of_knowsLevel (h : s.knowsLevel = true) (input : List UInt8) :
    (run s [] input).ending =
        .ofServing (Connection.serve s.compiler ⟨s.session, .whole input, []⟩).result ∧
      (run s [] input).output =
        (Connection.serve s.compiler ⟨s.session, .whole input, []⟩).state.output := by
  rw [run_nil, serve]
  unfold Setting.knowsLevel at h
  unfold Log.State.configure
  cases level : (Log.Threshold.named s.settings.logLevel).number? with
  | ok n => exact ⟨rfl, rfl⟩
  | error cause =>
      rw [level] at h
      cases h

theorem bytes_ops (answers : List CompileResult) :
    (answers.flatMap CompileResult.ops).flatMap PipeOp.bytes =
      answers.flatMap CompileResult.bytes := by
  induction answers with
  | nil => rfl
  | cons r answers ih =>
      rw [List.flatMap_cons, List.flatMap_append, ih, List.flatMap_cons]
      simp [CompileResult.ops, PipeOp.bytes]

/-- The helper applies the frames that it is sent, and waits for more until the end. -/
theorem run_of_frames (ready : s.knowsLevel = true) (accepts : s.session.Accepts fs)
    (handles : s.session.HandlesAll s.compiler fs) :
    (run s [] (framesBytes fs)).ending =
        (if .finish ∈ fs.map Frame.action then .finished else .starved) ∧
      ∃ answers, (Session.replay s.compiler fs s.session).result = .ok answers ∧
        (run s [] (framesBytes fs)).outputBytes = answers.flatMap CompileResult.bytes := by
  obtain ⟨ending, output⟩ := run_of_knowsLevel ready (framesBytes fs)
  let c : Connection := ⟨s.session, .whole (framesBytes fs), []⟩
  have leads : c.session.Leads c.input.rest fs [] := by
    have nothing : ∀ (f : Frame) rest, f.bytes ++ rest ≠ [] := fun f rest empty =>
      f.bytes_ne_nil (List.append_eq_nil_iff.1 empty).1
    have whole := Session.leads_of_blocked accepts fun f rest next =>
      absurd next (nothing f rest)
    rwa [List.append_nil] at whole
  have served : Connection.Served s.compiler c fs [] (Connection.serve s.compiler c) := by
    by_cases finish : .finish ∈ fs.map Frame.action
    · exact Connection.served_of_finish leads handles finish
    · exact Connection.served_of_stop leads handles finish
  constructor
  · rw [ending]
    by_cases finish : .finish ∈ fs.map Frame.action
    · rw [if_pos finish, served.returns.2 finish]
      rfl
    · obtain ⟨e, fails, ended⟩ := served.ends.2 ⟨finish, rfl⟩
      rw [if_neg finish, fails]
      exact if_pos ended
  · obtain ⟨answers, replayed, sent⟩ := served.output
    refine ⟨answers, replayed, ?_⟩
    rw [Run.outputBytes, output, sent]
    exact bytes_ops answers

end PluginBuild.Helper
