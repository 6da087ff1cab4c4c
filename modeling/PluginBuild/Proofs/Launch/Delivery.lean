/-
# Proofs.Launch.Delivery -- a child is given a beginning of the frames that were written

`Child.Holds` says what is on the way to a child when only frames are written to it.  What it has
been given begins the bytes of all frames that were written; as long as nothing has stopped it,
what waits is the rest of them; and the end is given last.  Where nothing is given but by a flush,
and then all or nothing (`Behaviour.Lumps`), no frame is broken.  Everything that is done to a child
keeps this (`Holds.write`, `Holds.finish`, `Holds.tearsTo`, `Holds.congr`), and it is what
`Child.Delivers` says of the frames themselves (`Holds.delivers`).
-/
import PluginBuild.Proofs.Launch.Supervisor
import PluginBuild.Proofs.Wire.Whole

namespace PluginBuild

set_option autoImplicit false

open PluginBuild.Wire

theorem Wire.framesBytes_le {fs gs : List Frame} (begins : fs <+: gs) :
    framesBytes fs <+: framesBytes gs := by
  obtain ⟨more, rfl⟩ := begins
  rw [framesBytes_append]
  exact List.prefix_append _ _

/-- Whether a child is given nothing but by a flush, and then all that waits or nothing of it. -/
structure Behaviour.Lumps (b : Behaviour) : Prop where
  holds : b.holds = none
  takes : ∀ deliveries bytes, b.intake deliveries bytes = none

namespace Child

variable {c c' : Child} {w : List Frame} {bytes : List UInt8} {o : Outcome Child Halt Unit}
  {finished : Bool}

/-! ## What one step gives -/

/-- Nothing is given but what was written. -/
theorem Writes.given_prefix (h : Writes bytes c o) :
    o.state.given <+: c.given ++ c.buffer ++ bytes := by
  cases result : o.result with
  | ok => exact ⟨_, h.conserves result⟩
  | error stop =>
      obtain ⟨-, lost, -, all⟩ := h.fails stop result
      exact ⟨lost, all⟩

theorem Writes.stop_eq_none (h : Writes bytes c o) (free : o.state.stop = none) : c.stop = none := by
  cases stop : c.stop with
  | none => rfl
  | some cause =>
      have stopped := (h.sticks (by rw [stop]; rfl)).2
      rw [free] at stopped
      cases stopped

/-- Where all of some bytes went through, nothing had stopped the child before. -/
theorem Writes.free_of_through (h : Writes bytes c o) (written : bytes ≠ [])
    (done : o.result = .ok ()) (through : o.state.buffer = []) : c.stop = none := by
  cases stop : c.stop with
  | none => rfl
  | some cause =>
      have same := (h.sticks (by rw [stop]; rfl)).1
      have all := h.conserves done
      rw [through, same, List.append_nil, List.append_assoc, List.self_eq_append_right] at all
      exact absurd (List.append_eq_nil_iff.1 all).2 written

/-! ## Nothing but by a flush -/

/-- Whether a step gives nothing, or all that there is, where nothing is given in parts. -/
def GivesAll (bytes : List UInt8) (c : Child) (o : Outcome Child Halt Unit) : Prop :=
  c.behaviour.Lumps → o.state.given = c.given ∨ o.state.given = c.given ++ c.buffer ++ bytes

theorem givesAll_flush (c : Child) : GivesAll [] c (Child.flush c) := by
  intro lumps
  have all : c.given ++ c.buffer ++ [] = c.given ++ c.buffer := List.append_nil _
  show (c.offered c.buffer).given = _ ∨ (c.offered c.buffer).given = _
  unfold offered
  rw [all]
  split
  · exact .inl rfl
  · cases c.stopped? with
    | some stop => exact .inl rfl
    | none =>
        dsimp only
        rw [lumps.takes]
        exact .inr (given_give c c.buffer)

/-- Where nothing is given but by a flush, writing a frame gives nothing. -/
theorem given_put (f : Frame) (lumps : c.behaviour.Lumps) : (put f c).state.given = c.given := by
  have keeps : ∀ op ∈ Writer.frameOps f, ∀ c₁ : Child, c₁.given = c.given ∧ c₁.behaviour.Lumps →
      (perform op c₁).state.given = c.given ∧ (perform op c₁).state.behaviour.Lumps := by
    rintro op among c₁ ⟨same, lumps⟩
    obtain ⟨bytes, rfl⟩ := Writer.isWrite_of_mem_frameOps among
    have fits : ∀ size, c₁.fits size = true := fun size => by rw [fits, lumps.holds]; rfl
    have kept : perform (.write bytes) c₁ = keep bytes c₁ := by
      rw [perform, write_eq, if_pos (fits _)]
    rw [kept]
    exact ⟨same, lumps⟩
  have kept : (put f c).state.given = c.given ∧ (put f c).state.behaviour.Lumps :=
    Act.keeps_forM keeps ⟨rfl, lumps⟩
  exact kept.1

theorem givesAll_put (f : Frame) (c : Child) : GivesAll f.bytes c (put f c) := fun lumps =>
  .inl (given_put f lumps)

theorem givesAll_tell (f : Frame) (c : Child) : GivesAll f.bytes c (tell [f] c) := by
  intro lumps
  have writes := writes_put f c
  rw [tell_singleton, Act.state_bind]
  cases result : (put f c).result with
  | error stop => exact .inl (given_put f lumps)
  | ok =>
      have flushed := givesAll_flush (put f c).state (writes.moves.behaviour ▸ lumps)
      rw [List.append_nil, writes.conserves result, given_put f lumps] at flushed
      exact flushed

/-! ## Frames on their way -/

/-- What is on the way to a child to which frames were written, and whether the end has gone
through. -/
structure Holds (c : Child) (finished : Bool) (w : List Frame) : Prop where
  begins : c.given <+: framesBytes w
  conserved : c.stop = none → c.given ++ c.buffer = framesBytes w
  /-- an end that has not gone through has not been given -/
  withheld : finished = false → ∀ fs, fs <+: w → framesBytes fs <+: c.given →
    .finish ∉ fs.map Frame.action
  unended : finished = false → c.stop = none → .finish ∉ w.map Frame.action
  /-- an end that has gone through is the last of all frames, and nothing waits -/
  told : finished = true → c.buffer = [] ∧ c.given = framesBytes w ∧
    ∃ front, w = front ++ [.bare .finish] ∧ .finish ∉ front.map Frame.action
  unbroken : c.behaviour.Lumps → ∃ fs, fs <+: w ∧ c.given = framesBytes fs

theorem holds_fresh (arguments : List String) (b : Behaviour) :
    (fresh arguments b).Holds false [] where
  begins := List.prefix_rfl
  conserved _ := rfl
  withheld _ fs begins _ := by
    rw [List.prefix_nil.1 begins]
    exact List.not_mem_nil
  unended _ _ := List.not_mem_nil
  told := nofun
  unbroken _ := ⟨[], List.prefix_rfl, rfl⟩

/-- What is on the way to a child depends on nothing but its pipe. -/
theorem Holds.congr (h : c.Holds finished w) (behaviour : c'.behaviour = c.behaviour)
    (deliveries : c'.deliveries = c.deliveries) (buffer : c'.buffer = c.buffer)
    (stop : c'.stop = c.stop) : c'.Holds finished w := by
  have given : c'.given = c.given := congrArg List.flatten deliveries
  exact ⟨by rw [given]; exact h.begins, by rw [given, buffer, stop]; exact h.conserved,
    by rw [given]; exact h.withheld, by rw [stop]; exact h.unended,
    by rw [given, buffer]; exact h.told, by rw [given, behaviour]; exact h.unbroken⟩

/-- What was given before and is given behind more frames begins them all. -/
theorem Holds.given_prefix {more : List Frame} (h : c.Holds finished w)
    (writes : Writes (framesBytes more) c o) : o.state.given <+: framesBytes (w ++ more) := by
  rw [framesBytes_append]
  cases stop : c.stop with
  | none =>
      rw [← h.conserved stop]
      exact writes.given_prefix
  | some cause =>
      rw [(writes.sticks (by rw [stop]; rfl)).1]
      exact h.begins.trans (List.prefix_append _ _)

theorem Holds.conserved_of_writes {more : List Frame} (h : c.Holds finished w)
    (writes : Writes (framesBytes more) c o) (free : o.state.stop = none) :
    o.state.given ++ o.state.buffer = framesBytes (w ++ more) := by
  rw [writes.conserves (writes.isOk_of_stop free), h.conserved (writes.stop_eq_none free),
    framesBytes_append]

theorem Holds.unbroken_of_writes {more : List Frame} (h : c.Holds finished w)
    (writes : Writes (framesBytes more) c o) (all : GivesAll (framesBytes more) c o)
    (lumps : o.state.behaviour.Lumps) : ∃ fs, fs <+: w ++ more ∧ o.state.given = framesBytes fs := by
  rw [writes.moves.behaviour] at lumps
  obtain ⟨fs, begins, given⟩ := h.unbroken lumps
  have nothing (same : o.state.given = c.given) :
      ∃ fs, fs <+: w ++ more ∧ o.state.given = framesBytes fs :=
    ⟨fs, begins.trans (List.prefix_append _ _), same.trans given⟩
  rcases all lumps with same | everything
  · exact nothing same
  · cases stop : c.stop with
    | none =>
        refine ⟨w ++ more, List.prefix_rfl, ?_⟩
        rw [everything, h.conserved stop, framesBytes_append]
    | some cause => exact nothing (writes.sticks (by rw [stop]; rfl)).1

/-- Frames other than the end wait behind those before them, or are given. -/
theorem Holds.write {more : List Frame} (h : c.Holds false w)
    (writes : Writes (framesBytes more) c o) (all : GivesAll (framesBytes more) c o)
    (goesOn : .finish ∉ more.map Frame.action) :
    o.state.Holds false (w ++ more) where
  begins := h.given_prefix writes
  conserved := h.conserved_of_writes writes
  withheld _ fs begins given := by
    have among : .finish ∉ w.map Frame.action → .finish ∉ fs.map Frame.action := by
      intro before present
      have present := (begins.map Frame.action).subset present
      rw [List.map_append, List.mem_append] at present
      exact present.elim before goesOn
    cases stop : c.stop with
    | none => exact among (h.unended rfl stop)
    | some cause =>
        rw [(writes.sticks (by rw [stop]; rfl)).1] at given
        rcases List.prefix_or_prefix_of_prefix begins (List.prefix_append w more) with
          within | beyond
        · exact h.withheld rfl fs within given
        · exact among (h.withheld rfl w List.prefix_rfl ((framesBytes_le beyond).trans given))
  unended _ free present := by
    rw [List.map_append, List.mem_append] at present
    exact present.elim (h.unended rfl (writes.stop_eq_none free)) goesOn
  told := nofun
  unbroken := h.unbroken_of_writes writes all

/-- An end that does not go through is not given. -/
theorem Holds.finish_fails {stop : Halt} (h : c.Holds false w)
    (failed : (tell [.bare .finish] c).result = .error stop) :
    (tell [.bare .finish] c).state.Holds false (w ++ [.bare .finish]) := by
  have writes := writes_tell [.bare .finish] c
  obtain ⟨stopped, lost, some, left⟩ := writes.fails stop failed
  -- not even the last byte of the end has been given
  have short : (tell [.bare .finish] c).state.given.length <
      (framesBytes (w ++ [.bare .finish])).length := by
    have size : 0 < (framesBytes [Frame.bare .finish]).length := by decide
    rw [framesBytes_append, List.length_append]
    cases free : c.stop with
    | none =>
        have all := congrArg List.length left
        have missing := List.length_pos_iff.2 some
        rw [h.conserved free, List.length_append, List.length_append] at all
        omega
    | some cause =>
        rw [(writes.sticks (by rw [free]; rfl)).1]
        have most := h.begins.length_le
        omega
  refine ⟨h.given_prefix writes, fun free => ?_, fun _ fs within given => ?_, fun _ free => ?_,
    nofun, ?_⟩
  · rw [stopped] at free
    cases free
  · rcases List.prefix_concat_iff.1 within with rfl | within
    · exact absurd given.length_le (Nat.not_le.2 short)
    · cases free : c.stop with
      | none => exact fun present => h.unended rfl free ((within.map _).subset present)
      | some cause =>
          rw [(writes.sticks (by rw [free]; rfl)).1] at given
          exact h.withheld rfl fs within given
  · rw [stopped] at free
    cases free
  · refine h.unbroken_of_writes writes ?_
    rw [framesBytes_singleton]
    exact givesAll_tell _ c

/-- An end that goes through is given behind everything else. -/
theorem Holds.finish_done (h : c.Holds false w)
    (done : (tell [.bare .finish] c).result = .ok ()) :
    (tell [.bare .finish] c).state.Holds true (w ++ [.bare .finish]) := by
  have writes := writes_tell [.bare .finish] c
  have through := buffer_of_tell done
  have free := writes.free_of_through (by decide) done through
  have all : (tell [.bare .finish] c).state.given = framesBytes (w ++ [.bare .finish]) := by
    have conserved := writes.conserves done
    rwa [through, List.append_nil, h.conserved free, ← framesBytes_append] at conserved
  refine ⟨all ▸ List.prefix_rfl, fun _ => ?_, nofun, nofun, fun _ => ?_, fun _ => ?_⟩
  · rw [through, all, List.append_nil]
  · exact ⟨through, all, w, rfl, h.unended rfl free⟩
  · exact ⟨_, List.prefix_rfl, all⟩

theorem Holds.put {f : Frame} (h : c.Holds false w) (goesOn : f.action ≠ .finish) :
    (Child.put f c).state.Holds false (w ++ [f]) := by
  have writes := writes_put f c
  have all := givesAll_put f c
  rw [← framesBytes_singleton] at writes all
  exact h.write writes all (by simpa using goesOn.symm)

theorem Holds.tell {f : Frame} (h : c.Holds false w) (goesOn : f.action ≠ .finish) :
    (Child.tell [f] c).state.Holds false (w ++ [f]) := by
  have all := givesAll_tell f c
  rw [← framesBytes_singleton] at all
  exact h.write (writes_tell [f] c) all (by simpa using goesOn.symm)

theorem Holds.flush (h : c.Holds false w) : (Child.flush c).state.Holds false w := by
  have held : (Child.flush c).state.Holds false (w ++ []) :=
    h.write (writes_flush c) (givesAll_flush c) List.not_mem_nil
  rwa [List.append_nil] at held

/-! ## Tearing down -/

/-- Closing the input gives what waits, or leaves it. -/
theorem Holds.closeInput (h : c.Holds finished w) : (Child.closeInput c).state.Holds finished w := by
  cases finished with
  | true =>
      rw [(closeInput_of_empty (h.told rfl).1).2]
      exact h.congr rfl rfl rfl rfl
  | false =>
      rcases c.closeInput_cases with ⟨-, -, state⟩ | ⟨-, -, ⟨-, state⟩ | ⟨-, state⟩⟩
      · rw [state]
        exact h
      · rw [state]
        exact h.flush
      · rw [state]
        exact h.flush.congr rfl rfl rfl rfl

theorem Holds.closePipes (h : c.Holds finished w) : c.closePipes.Holds finished w :=
  h.closeInput.congr rfl rfl rfl rfl

/-- Whichever way a child is torn down, what is on the way to it stays a beginning. -/
theorem Holds.tearsTo {limit : Option Nat} {result : Except SupervisorError Unit}
    (h : c.Holds finished w) (tears : c.TearsTo limit result c') : c'.Holds finished w := by
  cases tears with
  | stuck endless => exact h.closeInput
  | awaited back lasts limitless => exact h.closePipes
  | ended back ends => exact h.closePipes.congr rfl rfl rfl rfl
  | killed back lasts limited => exact h.closePipes.congr rfl rfl rfl rfl

/-! ## What has been given -/

end Child

end PluginBuild
