/-
# Proofs.Wire.Whole -- what has come whole stays as it is when more comes

On any bytes a reader either fails because they are too few, or comes to something that bytes
behind them change nothing about (`Reader.Decides`).  So the beginning of a frame tells nothing yet
(`Reader.takes_frame_short`), and only whole frames are told apart (`wholeFrames_append`).

Whatever beginning of the bytes of frames there is, it is made of whole frames and of a part of the
next one (`Cut`, `exists_cut`).
-/
import PluginBuild.Proofs.Wire.Frame

namespace PluginBuild.Wire

set_option autoImplicit false

namespace Reader

variable {α β : Type}

/-! ## Readers that decide -/

/-- Whether a reader fails only on bytes that are too few, or comes to the same whatever stands
behind them. -/
def Decides (r : Reader α) : Prop := ∀ bytes,
  (∃ e rest, e.isShort = true ∧ r.Takes bytes (.error e) rest) ∨
    ∃ x rest, ∀ more, r.Takes (bytes ++ more) x (rest ++ more)

theorem decides_pure (a : α) : (pure a : Reader α).Decides := fun bytes =>
  .inr ⟨.ok a, bytes, fun _ => takes_pure a _⟩

theorem decides_throw (e : ReadError) : (throw e : Reader α).Decides := fun bytes =>
  .inr ⟨.error e, bytes, fun _ => takes_throw e _⟩

theorem Decides.bind {r : Reader α} {f : α → Reader β} (hr : r.Decides)
    (hf : ∀ a, (f a).Decides) : (r >>= f).Decides := by
  intro bytes
  rcases hr bytes with ⟨e, rest, short, takes⟩ | ⟨x, between, takes⟩
  · exact .inl ⟨e, rest, short, takes.bind_error f⟩
  · cases x with
    | error e => exact .inr ⟨.error e, between, fun more => (takes more).bind_error f⟩
    | ok a =>
        rcases hf a between with ⟨e, rest, short, takes'⟩ | ⟨x, rest, takes'⟩
        · have first := takes []
          rw [List.append_nil, List.append_nil] at first
          exact .inl ⟨e, rest, short, first.bind takes'⟩
        · exact .inr ⟨x, rest, fun more => (takes more).bind (takes' more)⟩

/-- An error may be told in another way, as long as it stays one of too few bytes. -/
theorem Decides.tryCatch {r : Reader α} (h : r.Decides) {g : ReadError → ReadError}
    (stays : ∀ e, e.isShort = true → (g e).isShort = true) :
    (tryCatch r fun e => throw (g e)).Decides := by
  intro bytes
  rcases h bytes with ⟨e, rest, short, takes⟩ | ⟨x, rest, takes⟩
  · exact .inl ⟨g e, rest, stays e short, takes.tryCatch_error (takes_throw _ _)⟩
  · cases x with
    | ok a => exact .inr ⟨.ok a, rest, fun more => (takes more).tryCatch_ok _⟩
    | error e =>
        exact .inr ⟨.error (g e), rest, fun more => (takes more).tryCatch_error (takes_throw _ _)⟩

theorem decides_exactly (size : Nat) (item : Item) : (exactly size item).Decides := by
  intro bytes
  by_cases enough : size ≤ bytes.length
  · refine .inr ⟨.ok (bytes.take size), bytes.drop size, fun more => ?_⟩
    have takes := takes_exactly item (bytes.drop size ++ more) (List.length_take_of_le enough)
    rwa [← List.append_assoc, List.take_append_drop] at takes
  · rw [Nat.not_le] at enough
    cases bytes with
    | nil => exact .inl ⟨_, [], rfl, takes_exactly_closed item (Nat.ne_of_gt enough)⟩
    | cons b bytes =>
        exact .inl ⟨_, [], rfl, takes_exactly_truncated item (List.cons_ne_nil b bytes) enough⟩

theorem decides_int32 : int32.Decides := by
  rw [int32, ← bind_pure_comp]
  exact (decides_exactly 4 .int32).bind fun _ => decides_pure _

theorem decides_action : action.Decides := by
  refine decides_int32.bind fun code => ?_
  cases Action.ofCode? code with
  | some a => exact decides_pure a
  | none => exact decides_throw _

theorem decides_sized (kind : Sized) : (sized kind).Decides := by
  rw [sized_eq]
  refine decides_int32.bind fun length => ?_
  have absent : ((tryCatch (exactly length.toNat kind.payload) fun e =>
      throw (if e.isEndOfInput then .absentPayload kind else e)) : Reader _).Decides := by
    refine (decides_exactly _ _).tryCatch fun e short => ?_
    split
    · rfl
    · exact short
  unfold payload
  split
  · exact (decides_throw _).bind fun _ => absent
  · exact absent

theorem decides_string : string.Decides := by
  rw [string_eq]
  refine (decides_sized .string).bind fun data => ?_
  unfold text
  cases Text.Utf8.decode data with
  | ok s => exact decides_pure _
  | error cause => exact decides_throw _

theorem decides_strings (count : Nat) : (strings count).Decides := by
  induction count with
  | zero => exact decides_pure _
  | succ count ih => exact decides_string.bind fun _ => ih.bind fun _ => decides_pure _

theorem decides_frame : frame.Decides :=
  decides_action.bind fun a => (decides_strings a.arity).bind fun _ => decides_pure _

/-- A part of a frame is too little to be read. -/
theorem takes_frame_short {f : Frame} (sendable : f.Sendable) {part rest : List UInt8}
    (missing : rest ≠ []) (split : part ++ rest = f.bytes) :
    ∃ e left, e.isShort = true ∧ frame.Takes part (.error e) left := by
  rcases decides_frame part with short | ⟨x, left, takes⟩
  · exact short
  · have whole := takes_frame sendable []
    have taken := takes rest
    rw [List.append_nil, ← split] at whole
    exact absurd (List.append_eq_nil_iff.1 (taken.unique whole).2).2 missing

end Reader

/-! ## Whole frames -/

theorem wholeFrames_of_short {bytes left : List UInt8} {e : ReadError} (short : e.isShort = true)
    (takes : Reader.frame.Takes bytes (.error e) left) : wholeFrames bytes = [] := by
  obtain ⟨failed, -⟩ := takes (.whole bytes) rfl
  rw [wholeFrames]
  split
  · next e' _ h =>
    rw [h] at failed
    rw [Except.error.inj failed, short, if_pos rfl]
  · next h =>
    rw [h] at failed
    cases failed

theorem wholeFrames_of_ok {bytes : List UInt8} {f : Frame} {p : Pipe}
    (read : Reader.frame.runOn (.whole bytes) = (.ok f, p)) :
    wholeFrames bytes = bytes.take (bytes.length - p.rest.length) ++ wholeFrames p.rest := by
  rw [wholeFrames]
  split
  · next h =>
    rw [read] at h
    cases h
  · next h =>
    rw [read] at h
    cases h
    rfl

theorem wholeFrames_of_frame {f : Frame} (sendable : f.Sendable) (rest : List UInt8) :
    wholeFrames (f.bytes ++ rest) = f.bytes ++ wholeFrames rest := by
  obtain ⟨read, left⟩ := Reader.takes_frame sendable rest (.whole _) rfl
  cases run : Reader.frame.runOn (.whole (f.bytes ++ rest)) with
  | mk x p =>
      rw [run] at read left
      subst read
      rw [wholeFrames_of_ok run, left, List.length_append, Nat.add_sub_cancel, List.take_left]

/-- Of frames and a part of one more, the frames have come whole. -/
theorem wholeFrames_append {fs : List Frame} (sendable : ∀ f ∈ fs, f.Sendable) {f : Frame}
    (next : f.Sendable) {part rest : List UInt8} (missing : rest ≠ [])
    (split : part ++ rest = f.bytes) : wholeFrames (framesBytes fs ++ part) = framesBytes fs := by
  induction fs with
  | nil =>
      obtain ⟨e, left, short, takes⟩ := Reader.takes_frame_short next missing split
      exact wholeFrames_of_short short takes
  | cons g fs ih =>
      rw [framesBytes_cons, List.append_assoc,
        wholeFrames_of_frame (sendable g List.mem_cons_self),
        ih fun h present => sendable h (List.mem_cons_of_mem _ present)]

/-! ## Beginnings -/

/-- A beginning of the bytes of frames, cut into whole frames and a part of the next one. -/
structure Cut (w : List Frame) (bytes : List UInt8) (fs : List Frame) (part : List UInt8) :
    Prop where
  whole : fs <+: w
  split : bytes = framesBytes fs ++ part
  next : part ≠ [] → ∃ f rest, fs ++ [f] <+: w ∧ rest ≠ [] ∧ part ++ rest = f.bytes

/-- Cut behind its last byte a stream leaves no part of a frame. -/
theorem cut_framesBytes (w : List Frame) : Cut w (framesBytes w) w [] where
  whole := List.prefix_rfl
  split := (List.append_nil _).symm
  next more := absurd rfl more

theorem exists_cut {w : List Frame} {bytes : List UInt8} (begins : bytes <+: framesBytes w) :
    ∃ fs part, Cut w bytes fs part := by
  induction w generalizing bytes with
  | nil => exact ⟨[], [], List.prefix_rfl, List.prefix_nil.1 begins, nofun⟩
  | cons f w ih =>
      obtain ⟨behind, same⟩ := begins
      rw [framesBytes_cons] at same
      rcases List.append_eq_append_iff.1 same with ⟨rest, inside, -⟩ | ⟨more, rfl, others⟩
      · by_cases missing : rest = []
        · subst missing
          refine ⟨[f], [], List.prefix_cons_inj f |>.2 List.nil_prefix, ?_, nofun⟩
          rw [framesBytes_singleton, inside, List.append_nil, List.append_nil]
        · refine ⟨[], bytes, List.nil_prefix, rfl, fun _ => ⟨f, rest, ?_, missing, inside.symm⟩⟩
          exact (List.prefix_cons_inj f).2 List.nil_prefix
      · obtain ⟨fs, part, cut⟩ := ih ⟨behind, others.symm⟩
        refine ⟨f :: fs, part, (List.prefix_cons_inj f).2 cut.whole, ?_, fun some => ?_⟩
        · rw [framesBytes_cons, cut.split, List.append_assoc]
        · obtain ⟨g, rest, here, missing, inside⟩ := cut.next some
          exact ⟨g, rest, (List.prefix_cons_inj f).2 here, missing, inside⟩

/-- Of a beginning of the bytes of frames, the frames that it is cut into have come whole. -/
theorem Cut.wholeFrames_eq {w fs : List Frame} {bytes part : List UInt8} (cut : Cut w bytes fs part)
    (sendable : ∀ f ∈ w, f.Sendable) : wholeFrames bytes = framesBytes fs := by
  have whole : ∀ f ∈ fs, f.Sendable := fun f present => sendable f (cut.whole.subset present)
  rw [cut.split]
  by_cases nothing : part = []
  · -- nothing is a part of any frame
    have finish : (Frame.bare .finish).Sendable := Frame.sendable_bare rfl
    exact nothing ▸ wholeFrames_append whole finish (Frame.bytes_ne_nil _) rfl
  · obtain ⟨f, rest, here, missing, inside⟩ := cut.next nothing
    exact wholeFrames_append whole (sendable f (here.subset List.mem_concat_self)) missing inside

end PluginBuild.Wire
