/-
# Wire.Progress -- readers only ever consume

Whatever a reader makes of a pipe, it leaves an end piece of what was there
(`Reader.NeverGrows`), and reading a frame's code takes four bytes off it
(`length_lt_of_action`).  So reading frame after frame ends, and so does telling which
frames have come whole (`wholeFrames`).
-/
import PluginBuild.Wire.Result

namespace PluginBuild.Wire

set_option autoImplicit false

namespace Pipe

theorem read_append (p : Pipe) (size : Nat) : (p.read size).1 ++ (p.read size).2.rest = p.rest :=
  List.take_append_drop _ _

/-- Filling moves bytes from the pipe and changes none. -/
theorem fill_append (p : Pipe) (size : Nat) : (p.fill size).1 ++ (p.fill size).2.rest = p.rest := by
  fun_induction fill p size with
  | case1 => rfl
  | case2 p size _ p' h =>
    have := p.read_append size
    rw [h] at this
    simpa using this
  | case3 p size _ b chunk p' h _ more p'' h' ih =>
    have := p.read_append size
    rw [h] at this
    rw [h'] at ih
    simp only at ih this
    rw [List.append_assoc, ih, this]

/-- Filling never yields more than was asked for. -/
theorem length_fill_le (p : Pipe) (size : Nat) : (p.fill size).1.length ≤ size := by
  fun_induction fill p size with
  | case1 => simp
  | case2 => simp
  | case3 p size _ b chunk p' h _ more p'' h' ih =>
    have := congrArg (fun r => r.1.length) h
    simp only [read, List.length_take, List.length_cons, portion] at this
    rw [h'] at ih
    simp only at ih
    simp only [List.cons_append, List.length_cons, List.length_append]
    omega

end Pipe

namespace Reader

variable {α β : Type}

/-- Whether a reader never adds bytes to a pipe. -/
def NeverGrows (r : Reader α) : Prop := ∀ p, (r.runOn p).2.rest.length ≤ p.rest.length

theorem runOn_pure (a : α) (p : Pipe) : (pure a : Reader α).runOn p = (.ok a, p) := rfl

theorem runOn_throw (e : ReadError) (p : Pipe) : (throw e : Reader α).runOn p = (.error e, p) := rfl

theorem runOn_bind (r : Reader α) (f : α → Reader β) (p : Pipe) :
    (r >>= f).runOn p = match r.runOn p with
      | (.ok a, p') => (f a).runOn p'
      | (.error e, p') => (.error e, p') := by
  simp only [runOn, ExceptT.run_bind, StateT.run_bind]
  cases h : r.run.run p with
  | mk x s => cases x <;> rfl

theorem runOn_tryCatch (r : Reader α) (f : ReadError → Reader α) (p : Pipe) :
    (tryCatch r f).runOn p = match r.runOn p with
      | (.ok a, p') => (.ok a, p')
      | (.error e, p') => (f e).runOn p' := by
  simp only [runOn, ExceptT.run_tryCatch, StateT.run_bind]
  cases h : r.run.run p with
  | mk x s => cases x <;> rfl

theorem neverGrows_pure (a : α) : NeverGrows (pure a : Reader α) := fun _ => Nat.le_refl _

theorem neverGrows_throw (e : ReadError) : NeverGrows (throw e : Reader α) := fun _ => Nat.le_refl _

theorem NeverGrows.bind {r : Reader α} {f : α → Reader β} (hr : NeverGrows r)
    (hf : ∀ a, NeverGrows (f a)) : NeverGrows (r >>= f) := by
  intro p
  rw [runOn_bind]
  have := hr p
  cases h : r.runOn p with
  | mk x s =>
    rw [h] at this
    cases x with
    | error e => exact this
    | ok a => exact Nat.le_trans (hf a s) this

theorem NeverGrows.tryCatch {r : Reader α} {f : ReadError → Reader α} (hr : NeverGrows r)
    (hf : ∀ e, NeverGrows (f e)) : NeverGrows (tryCatch r f) := by
  intro p
  rw [runOn_tryCatch]
  have := hr p
  cases h : r.runOn p with
  | mk x s =>
    rw [h] at this
    cases x with
    | ok a => exact this
    | error e => exact Nat.le_trans (hf e s) this

theorem NeverGrows.map {r : Reader α} (hr : NeverGrows r) (f : α → β) : NeverGrows (f <$> r) := by
  have : f <$> r = r >>= fun a => pure (f a) := by rw [bind_pure_comp]
  rw [this]
  exact hr.bind fun a => neverGrows_pure _

/-- What reading exactly so many bytes comes to. -/
theorem runOn_exactly (size : Nat) (item : Item) (p : Pipe) :
    (exactly size item).runOn p =
      (if size ≠ 0 ∧ (p.fill size).1 = [] then .error (.closed item)
        else if (p.fill size).1.length < size then
          .error (.truncated item size (p.fill size).1.length)
        else .ok (p.fill size).1, (p.fill size).2) := by
  rw [exactly, runOn_bind]
  show (ite _ _ _ : Reader _).runOn (p.fill size).2 = _
  split
  · rw [runOn_throw]
  · split
    · rw [runOn_throw]
    · rw [runOn_pure]

theorem neverGrows_exactly (size : Nat) (item : Item) : NeverGrows (exactly size item) := by
  intro p
  rw [runOn_exactly]
  have := congrArg List.length (p.fill_append size)
  rw [List.length_append] at this
  simp only
  omega

theorem neverGrows_int32 : NeverGrows int32 := (neverGrows_exactly _ _).map _

theorem neverGrows_sized (kind : Sized) : NeverGrows (sized kind) := by
  refine neverGrows_int32.bind fun n => ?_
  split
  · exact neverGrows_throw _
  · exact (neverGrows_exactly _ _).tryCatch fun e => neverGrows_throw _

theorem neverGrows_string : NeverGrows string := by
  refine (neverGrows_sized _).bind fun data => ?_
  split
  · exact neverGrows_pure _
  · exact neverGrows_throw _

/-- An item that has been read took its bytes off the pipe. -/
theorem length_of_exactly {size : Nat} {item : Item} {p p' : Pipe} {data : List UInt8}
    (h : (exactly size item).runOn p = (.ok data, p')) :
    p'.rest.length + size = p.rest.length := by
  rw [runOn_exactly] at h
  have total := congrArg List.length (p.fill_append size)
  have most := p.length_fill_le size
  rw [List.length_append] at total
  obtain ⟨h₁, rfl⟩ := Prod.mk.inj h
  split at h₁
  · cases h₁
  · split at h₁
    · cases h₁
    · omega

/-- Reading a frame's code takes four bytes off the pipe. -/
theorem length_lt_of_action {p p' : Pipe} {a : Action} (h : action.runOn p = (.ok a, p')) :
    p'.rest.length < p.rest.length := by
  rw [action, runOn_bind, int32, ← bind_pure_comp, runOn_bind] at h
  cases h' : (exactly 4 .int32).runOn p with
  | mk x s =>
    rw [h'] at h
    cases x with
    | error e => cases h
    | ok data =>
      have := length_of_exactly h'
      simp only [runOn_pure] at h
      split at h
      · obtain ⟨-, rfl⟩ := Prod.mk.inj h
        omega
      · cases h

theorem neverGrows_strings (count : Nat) : NeverGrows (strings count) := by
  induction count with
  | zero => exact neverGrows_pure _
  | succ count ih => exact neverGrows_string.bind fun _ => ih.bind fun _ => neverGrows_pure _

/-- A frame that has been read took bytes off the pipe. -/
theorem length_lt_of_frame {p p' : Pipe} {f : Frame} (h : frame.runOn p = (.ok f, p')) :
    p'.rest.length < p.rest.length := by
  rw [frame, runOn_bind] at h
  cases code : action.runOn p with
  | mk x s =>
    rw [code] at h
    cases x with
    | error e => cases h
    | ok a =>
      have strings := ((neverGrows_strings a.arity).bind fun payload =>
        neverGrows_pure (Frame.mk a payload)) s
      simp only at h
      rw [h] at strings
      exact Nat.lt_of_le_of_lt strings (length_lt_of_action code)

end Reader

/-- Some bytes without those of a frame at their end that has not come whole.  Behind bytes that
begin no frame at all, nothing is told apart. -/
def wholeFrames (bytes : List UInt8) : List UInt8 :=
  match h : Reader.frame.runOn (.whole bytes) with
  | (.error e, _) => if e.isShort then [] else bytes
  | (.ok _, p) =>
    have : p.rest.length < bytes.length := Reader.length_lt_of_frame h
    bytes.take (bytes.length - p.rest.length) ++ wholeFrames p.rest
termination_by bytes.length

end PluginBuild.Wire
