/-
# Proofs.Launch.Child -- what is written to a child, and what reaches it

Whatever is written to a child, by whichever steps, is on its way in order: what it has been given
and what waits make up all of it as long as no step fails, and a step that fails has left something
out, behind which nothing more is given (`Child.Writes`).  A child that reads everything and has not
ended fails no step (`Child.Eager`, `Child.Goes`).

None of this depends on which child it is or on how much of its output was read
(`commutes_tell`).
-/
import PluginBuild.Launch.Child
import PluginBuild.Proofs.Act
import PluginBuild.Proofs.Wire.Result

namespace PluginBuild

set_option autoImplicit false

open PluginBuild.Wire

/-- Whether a child may keep somebody who offers it something waiting for ever. -/
def Behaviour.Stalls (b : Behaviour) : Prop :=
  ∃ deliveries bytes n, b.intake deliveries bytes = some (n, .endless)

namespace Child

variable {c c' : Child} {x y : Step Unit} {bytes more : List UInt8}

/-! ## The end of a child -/

@[simp] theorem code_poll (c : Child) : c.poll.code = c.ended? := rfl

theorem ended?_of_code {code : Int} (known : c.code = some code) : c.ended? = some code := by
  rw [ended?, known, Option.some_or]

/-- As long as its input is open, a child has ended if its program has. -/
theorem ended?_of_open (unasked : c.code = none) (isOpen : c.inputOpen = true) :
    c.ended? = c.status.exit := by
  rw [ended?, unasked, Option.none_or, isOpen, status, isOpen]
  exact Option.or_none

/-- Once the exit code of a child is known, asking for it again changes nothing. -/
theorem poll_of_code (known : c.code.isSome = true) : c.poll = c := by
  obtain ⟨code, same⟩ := Option.isSome_iff_exists.1 known
  rw [poll, ended?_of_code same, ← same]

/-- Asking a child that has not ended for its exit code changes nothing. -/
theorem poll_of_running (running : c.ended? = none) : c.poll = c := by
  rw [poll, running, ← (Option.or_eq_none_iff.1 running).1]

/-- A child that ends while it is waited for has ended. -/
theorem isSome_ended?_of_endsWithin {limit : Option Nat} (ends : c.endsWithin limit = true) :
    c.ended?.isSome = true := by
  unfold endsWithin lasts? at ends
  cases code : c.code with
  | some code => rw [ended?_of_code code, Option.isSome_some]
  | none =>
      rw [code] at ends
      cases ended : c.ended? with
      | some code => rfl
      | none =>
          rw [ended] at ends
          cases ends

/-- A child whose exit code is known need not be waited for. -/
theorem endsWithin_of_code (known : c.code.isSome = true) (limit : Option Nat) :
    c.endsWithin limit = true := by
  rw [endsWithin, lasts?, if_pos known]
  cases limit <;> simp

/-- Without a limit, a child that is waited for ends by itself if it ends at all. -/
theorem endsWithin_none (c : Child) : c.endsWithin none = c.ended?.isSome := by
  unfold endsWithin lasts?
  cases code : c.code with
  | some code => rw [ended?_of_code code]; rfl
  | none => cases c.ended? <;> rfl

/-! ## Steps on the input -/

/-- A child in which nothing but what is on the way to it has changed. -/
structure Moves (c c' : Child) : Prop where
  arguments : c'.arguments = c.arguments
  behaviour : c'.behaviour = c.behaviour
  inputOpen : c'.inputOpen = c.inputOpen
  outputOpen : c'.outputOpen = c.outputOpen
  outputRead : c'.outputRead = c.outputRead
  code : c'.code = c.code

theorem Moves.refl (c : Child) : c.Moves c := ⟨rfl, rfl, rfl, rfl, rfl, rfl⟩

theorem Moves.trans {c₁ c₂ c₃ : Child} (h : c₁.Moves c₂) (h' : c₂.Moves c₃) : c₁.Moves c₃ where
  arguments := h'.arguments.trans h.arguments
  behaviour := h'.behaviour.trans h.behaviour
  inputOpen := h'.inputOpen.trans h.inputOpen
  outputOpen := h'.outputOpen.trans h.outputOpen
  outputRead := h'.outputRead.trans h.outputRead
  code := h'.code.trans h.code

theorem given_give (c : Child) (bytes : List UInt8) : (c.give bytes).given = c.given ++ bytes := by
  unfold give
  cases bytes with
  | nil => exact (List.append_nil _).symm
  | cons b bytes => simp [given]

theorem moves_give (c : Child) (bytes : List UInt8) : c.Moves (c.give bytes) := by
  unfold give
  split
  · exact .refl c
  · exact ⟨rfl, rfl, rfl, rfl, rfl, rfl⟩

theorem stop_give (c : Child) (bytes : List UInt8) : (c.give bytes).stop = c.stop := by
  unfold give
  split <;> rfl

theorem stop_of_stopped? (endless : c.stopped? = some .endless) : c.stop = some .endless := by
  unfold stopped? at endless
  split at endless
  · cases endless
  · exact endless

theorem stopped?_of_refused (stop : c.stop = some .refused) : c.stopped? = some .refused := by
  rw [stopped?, stop, ite_self]

/-- What has stopped a child stops it for good. -/
theorem isSome_stopped? (h : c.stop.isSome = true) : c.stopped?.isSome = true := by
  unfold stopped?
  split
  · rfl
  · exact h

/-- What a child is offered it takes from the front, and what it has not taken waits. -/
theorem offered_spec (c : Child) (bytes : List UInt8) :
    c.Moves (c.offered bytes) ∧
      (c.offered bytes).given ++ (c.offered bytes).buffer = c.given ++ bytes ∧
      ((c.offered bytes).buffer ≠ [] → (c.offered bytes).stop.isSome = true) ∧
      (c.stop.isSome = true →
        (c.offered bytes).given = c.given ∧ (c.offered bytes).stop.isSome = true) ∧
      (¬c.behaviour.Stalls → c.stop ≠ some .endless → (c.offered bytes).stop ≠ some .endless) ∧
      (c.stopped? = some .refused → (c.offered bytes).stopped? = some .refused ∧
        ((c.offered bytes).buffer ≠ [] → (c.offered bytes).stop = some .refused)) := by
  unfold offered
  by_cases nothing : bytes = []
  · subst nothing
    exact ⟨⟨rfl, rfl, rfl, rfl, rfl, rfl⟩, rfl, fun waits => absurd rfl waits, fun h => ⟨rfl, h⟩,
      fun _ h => h, fun h => ⟨h, fun waits => absurd rfl waits⟩⟩
  · rw [if_neg (by simpa using nothing)]
    cases stopped : c.stopped? with
    | some stop =>
        refine ⟨⟨rfl, rfl, rfl, rfl, rfl, rfl⟩, rfl, fun _ => rfl, fun _ => ⟨rfl, rfl⟩,
          fun _ back endless => ?_, fun refused => ?_⟩
        · obtain rfl : stop = .endless := Option.some.inj endless
          exact back (stop_of_stopped? stopped)
        · cases refused
          exact ⟨stopped?_of_refused rfl, fun _ => rfl⟩
    | none =>
        have free : ¬c.stop.isSome = true := fun h => by
          have := isSome_stopped? h
          rw [stopped] at this
          cases this
        dsimp only
        cases taken : c.behaviour.intake c.deliveries bytes with
        | none =>
            refine ⟨(moves_give c bytes).trans ⟨rfl, rfl, rfl, rfl, rfl, rfl⟩, ?_,
              fun waits => absurd rfl waits, fun h => absurd h free, fun _ back => ?_, nofun⟩
            · exact (List.append_nil _).trans (given_give c bytes)
            · show (c.give bytes).stop ≠ _
              rw [stop_give]
              exact back
        | some part =>
            obtain ⟨n, stop⟩ := part
            refine ⟨(moves_give c _).trans ⟨rfl, rfl, rfl, rfl, rfl, rfl⟩, ?_, fun _ => rfl,
              fun h => absurd h free, fun reads _ endless => ?_, nofun⟩
            · show (c.give (bytes.take n)).given ++ bytes.drop n = _
              rw [given_give, List.append_assoc, List.take_append_drop]
            · have endless := Option.some.inj endless
              split at endless
              · cases endless
              · exact reads ⟨c.deliveries, bytes, n, endless ▸ taken⟩

/-! ## Books

What was written is given, waits, or is left out by a step that failed. -/

/-- What becomes of bytes that a step writes to a child. -/
structure Writes (bytes : List UInt8) (c : Child) (o : Outcome Child Halt Unit) : Prop where
  moves : c.Moves o.state
  /-- where nothing fails, nothing is lost -/
  conserves : o.result = .ok () → o.state.given ++ o.state.buffer = c.given ++ c.buffer ++ bytes
  /-- a step that fails has left something out, and knows why -/
  fails : ∀ stop, o.result = .error stop → o.state.stop = some stop ∧
    ∃ lost, lost ≠ [] ∧ o.state.given ++ lost = c.given ++ c.buffer ++ bytes
  /-- a child that has been stopped is given nothing any more -/
  sticks : c.stop.isSome = true → o.state.given = c.given ∧ o.state.stop.isSome = true
  /-- a child that does not stall keeps nobody waiting for ever -/
  returns : ¬c.behaviour.Stalls → c.stop ≠ some .endless → o.state.stop ≠ some .endless
  /-- and neither does one that refuses what it is offered -/
  refuses : c.stopped? = some .refused →
    o.state.stopped? = some .refused ∧ o.result ≠ .error .endless

theorem Writes.isOk_of_stop {o : Outcome Child Halt Unit} (h : Writes bytes c o)
    (free : o.state.stop = none) : o.result = .ok () := by
  cases result : o.result with
  | ok => rfl
  | error stop =>
      rw [(h.fails stop result).1] at free
      cases free

theorem writes_pure (c : Child) : Writes [] c ((pure () : Step Unit) c) where
  moves := .refl c
  conserves _ := (List.append_nil _).symm
  fails := nofun
  sticks h := ⟨rfl, h⟩
  returns _ h := h
  refuses h := ⟨h, nofun⟩

theorem writes_keep (bytes : List UInt8) (c : Child) : Writes bytes c (keep bytes c) where
  moves := ⟨rfl, rfl, rfl, rfl, rfl, rfl⟩
  conserves _ := (List.append_assoc _ _ _).symm
  fails := nofun
  sticks h := ⟨rfl, h⟩
  returns _ h := h
  refuses h := ⟨h, nofun⟩

theorem writes_flush (c : Child) : Writes [] c (flush c) := by
  obtain ⟨moves, all, stopped, sticks, returns, refuses⟩ := c.offered_spec c.buffer
  refine ⟨moves, fun _ => ?_, fun stop failed => ?_, sticks, returns, fun refused => ?_⟩
  · rw [List.append_nil]
    exact all
  · have waits : (c.offered c.buffer).buffer ≠ [] := by
      rintro nothing
      simp [flush, nothing] at failed
    obtain ⟨stop', known⟩ := Option.isSome_iff_exists.1 (stopped waits)
    simp [flush, waits, known] at failed
    subst failed
    refine ⟨known, _, waits, ?_⟩
    rw [List.append_nil]
    exact all
  · obtain ⟨refused', lost⟩ := refuses refused
    refine ⟨refused', fun endless => ?_⟩
    by_cases waits : (c.offered c.buffer).buffer = []
    · simp [flush, waits] at endless
    · simp [flush, waits, lost waits] at endless

theorem buffer_of_flush (h : (flush c).result = .ok ()) : (flush c).state.buffer = [] := by
  cases waits : (c.offered c.buffer).buffer with
  | nil => exact waits
  | cons b rest => simp [flush, waits] at h

theorem writes_pass (empty : c.buffer = []) (bytes : List UInt8) :
    Writes bytes c (pass bytes c) := by
  obtain ⟨moves, all, stopped, sticks, returns, refuses⟩ := c.offered_spec bytes
  unfold pass
  dsimp only
  split
  · refine ⟨moves, fun _ => ?_, nofun, sticks, returns, fun refused => ⟨(refuses refused).1, nofun⟩⟩
    rw [all, empty, List.append_nil]
  · next lost =>
    have waits : (c.offered bytes).buffer ≠ [] := by
      rintro nothing
      simp [nothing] at lost
    obtain ⟨stop, known⟩ := Option.isSome_iff_exists.1 (stopped waits)
    refine ⟨moves.trans ⟨rfl, rfl, rfl, rfl, rfl, rfl⟩, nofun, fun stop' failed => ?_, sticks,
      returns, fun refused => ?_⟩
    · obtain rfl : stop = stop' := by simpa [known] using failed
      refine ⟨known, _, waits, ?_⟩
      rw [empty, List.append_nil]
      exact all
    · obtain ⟨refused', lost⟩ := refuses refused
      exact ⟨refused', by simp [lost waits]⟩

/-- What two steps write, one behind the other. -/
theorem Writes.bind (first : Writes bytes c (x c))
    (next : (x c).result = .ok () → Writes more (x c).state (y (x c).state)) :
    Writes (bytes ++ more) c ((x >>= fun _ => y) c) := by
  cases result : (x c).result with
  | error stop =>
      obtain ⟨known, lost, some, left⟩ := first.fails stop result
      have outcome : ((x >>= fun _ => y) c).result = .error stop ∧
          ((x >>= fun _ => y) c).state = (x c).state := by simp [result]
      refine ⟨outcome.2 ▸ first.moves, fun done => ?_, fun stop' failed => ?_,
        outcome.2 ▸ first.sticks, outcome.2 ▸ first.returns, fun refused => ?_⟩
      · rw [outcome.1] at done
        cases done
      · rw [outcome.1] at failed
        cases failed
        rw [outcome.2]
        refine ⟨known, lost ++ more, by simp [some], ?_⟩
        rw [← List.append_assoc, left, List.append_assoc]
      · obtain ⟨refused', returned⟩ := first.refuses refused
        rw [result] at returned
        rw [outcome.1, outcome.2]
        exact ⟨refused', fun endless => returned (congrArg _ (Except.error.inj endless))⟩
  | ok =>
      have next := next result
      have before := first.conserves result
      rw [Act.bind_of_ok result]
      refine ⟨first.moves.trans next.moves, fun done => ?_, fun stop failed => ?_, fun h => ?_,
        fun reads back => ?_, fun refused => next.refuses (first.refuses refused).1⟩
      · rw [next.conserves done, before, List.append_assoc]
      · obtain ⟨known, lost, some, left⟩ := next.fails stop failed
        exact ⟨known, lost, some, by rw [left, before, List.append_assoc]⟩
      · obtain ⟨same, stopped⟩ := first.sticks h
        obtain ⟨same', stopped'⟩ := next.sticks stopped
        exact ⟨same'.trans same, stopped'⟩
      · exact next.returns (first.moves.behaviour.symm ▸ reads) (first.returns reads back)

/-- Writing, by the room that there is. -/
theorem write_eq (bytes : List UInt8) (c : Child) :
    write bytes c = (if c.fits (c.buffer.length + bytes.length) then keep bytes
      else flush >>= fun _ => if c.fits bytes.length then keep bytes else pass bytes) c := by
  rw [write, Act.bind_of_ok (Act.result_get c)]
  rfl

theorem writes_write (bytes : List UInt8) (c : Child) : Writes bytes c (write bytes c) := by
  rw [write_eq]
  split
  · exact writes_keep bytes c
  · refine (writes_flush c).bind fun flushed => ?_
    split
    · exact writes_keep bytes _
    · exact writes_pass (buffer_of_flush flushed) bytes

theorem writes_perform (op : PipeOp) (c : Child) : Writes op.bytes c (perform op c) := by
  cases op with
  | write bytes => exact writes_write bytes c
  | flush => exact writes_flush c

/-- What several steps write, each of which writes its own. -/
theorem writes_forM {α : Type} {f : α → Step Unit} {content : α → List UInt8}
    (each : ∀ a c, Writes (content a) c (f a c)) (l : List α) (c : Child) :
    Writes (l.flatMap content) c (l.forM f c) := by
  induction l generalizing c with
  | nil => exact writes_pure c
  | cons a l ih => exact (each a c).bind fun _ => ih _

/-! ## Frames -/

/-- Writes a frame. -/
def put (f : Frame) : Step Unit := (Writer.frameOps f).forM perform

/-- Writes frames and delivers them. -/
def tell (fs : List Frame) : Step Unit := do
  fs.forM put
  flush

theorem writes_put (f : Frame) (c : Child) : Writes f.bytes c (put f c) := by
  rw [← Writer.bytes_frameOps]
  exact writes_forM writes_perform _ c

theorem writes_putAll (fs : List Frame) (c : Child) :
    Writes (framesBytes fs) c (fs.forM put c) := writes_forM writes_put fs c

theorem writes_tell (fs : List Frame) (c : Child) : Writes (framesBytes fs) c (tell fs c) := by
  rw [← List.append_nil (framesBytes fs)]
  exact (writes_putAll fs c).bind fun _ => writes_flush _

/-- What has been told does not wait. -/
theorem buffer_of_tell {fs : List Frame} (told : (tell fs c).result = .ok ()) :
    (tell fs c).state.buffer = [] := by
  obtain ⟨⟨⟩, written, flushed⟩ := Act.result_bind_eq_ok.1 told
  rw [tell, Act.state_bind, written]
  exact buffer_of_flush flushed

theorem tell_singleton (f : Frame) : tell [f] = (put f >>= fun _ => flush) := by
  funext c
  show ((put f >>= fun _ => (pure () : Step Unit)) >>= fun _ => flush) c = _
  have alone : (put f >>= fun _ => (pure () : Step Unit)) = put f := by
    funext c
    show Act.bind (put f) (fun _ => Act.pure ()) c = put f c
    unfold Act.bind
    rcases put f c with ⟨result, state, events⟩
    cases result with
    | error stop => rfl
    | ok => exact congrArg (Outcome.mk _ _) (List.append_nil events)
  rw [alone]

/-- Closing the input offers what waits, and comes to the end of that unless it takes for
ever. -/
theorem closeInput_cases (c : Child) :
    (c.inputOpen = false ∧ (closeInput c).result = .ok () ∧ (closeInput c).state = c) ∨
      c.inputOpen = true ∧ (closeInput c).result = (flush c).result ∧
        ((flush c).result = .error .endless ∧ (closeInput c).state = (flush c).state ∨
          (flush c).result ≠ .error .endless ∧
            (closeInput c).state = { (flush c).state with inputOpen := false }) := by
  unfold closeInput
  cases isOpen : c.inputOpen with
  | false => exact .inl ⟨rfl, rfl, rfl⟩
  | true =>
      refine .inr ⟨rfl, ?_⟩
      rw [if_pos rfl]
      rcases flush c with ⟨(⟨_ | _⟩ | ⟨⟩), state, events⟩
      · exact ⟨rfl, .inr ⟨nofun, rfl⟩⟩
      · exact ⟨rfl, .inl ⟨rfl, rfl⟩⟩
      · exact ⟨rfl, .inr ⟨nofun, rfl⟩⟩

/-- A child for which nothing waits is offered nothing. -/
theorem flush_of_empty (empty : c.buffer = []) :
    (flush c).result = .ok () ∧ (flush c).state = c := by
  have same : c.offered c.buffer = c := by
    rw [empty, offered, if_pos (by rfl), ← empty]
  unfold flush
  rw [same]
  exact ⟨if_pos (by rw [empty]; rfl), rfl⟩

theorem closeInput_of_empty (empty : c.buffer = []) :
    (closeInput c).result = .ok () ∧ (closeInput c).state = { c with inputOpen := false } := by
  obtain ⟨flushed, state⟩ := flush_of_empty empty
  rcases c.closeInput_cases with ⟨closed, result, stays⟩ | ⟨-, result, ⟨endless, -⟩ | ⟨-, closed⟩⟩
  · exact ⟨result, by rw [stays, ← closed]⟩
  · rw [flushed] at endless
    cases endless
  · exact ⟨result.trans flushed, by rw [closed, state]⟩

/-- A child whose input and then whose output has been closed. -/
def closePipes (c : Child) : Child := { (closeInput c).state with outputOpen := false }

theorem closePipes_of_empty (empty : c.buffer = []) :
    c.closePipes = { c with inputOpen := false, outputOpen := false } := by
  rw [closePipes, (closeInput_of_empty empty).2]

theorem closePipes_of_closed (input : c.inputOpen = false) (output : c.outputOpen = false) :
    c.closePipes = c := by
  rw [closePipes, closeInput, if_neg (by simp [input]), ← output]

theorem moves_closePipes (c : Child) :
    c.Moves { c.closePipes with inputOpen := c.inputOpen, outputOpen := c.outputOpen } := by
  have moves := (writes_flush c).moves
  rcases c.closeInput_cases with ⟨-, -, state⟩ | ⟨-, -, ⟨-, state⟩ | ⟨-, state⟩⟩
  · rw [closePipes, state]
    exact .refl c
  · rw [closePipes, state]
    exact ⟨moves.arguments, moves.behaviour, rfl, rfl, moves.outputRead, moves.code⟩
  · rw [closePipes, state]
    exact ⟨moves.arguments, moves.behaviour, rfl, rfl, moves.outputRead, moves.code⟩

/-! ## Children that read everything -/

/-- Whether a child reads whatever comes, and goes on until all of some bytes have been given to
it. -/
structure Eager (c : Child) (total : List UInt8) : Prop where
  reads : c.behaviour.deaf = false
  takes : ∀ deliveries bytes, c.behaviour.intake deliveries bytes = none
  goesOn : ∀ deliveries rest, rest ≠ [] → deliveries.flatten ++ rest = total →
    c.behaviour.program.exit deliveries false = none
  inputOpen : c.inputOpen = true
  unasked : c.code = none
  free : c.stop = none

theorem Eager.congr {total : List UInt8} (h : c.Eager total) (moves : c.Moves c')
    (free : c'.stop = none) : c'.Eager total where
  reads := by rw [moves.behaviour, h.reads]
  takes := by rw [moves.behaviour]; exact h.takes
  goesOn := by rw [moves.behaviour]; exact h.goesOn
  inputOpen := moves.inputOpen.trans h.inputOpen
  unasked := moves.code.trans h.unasked
  free := free

/-- Whether a step goes through with every child that reads what the step writes. -/
def Goes (bytes : List UInt8) (x : Step Unit) : Prop := ∀ c total, c.Eager total →
  c.given ++ c.buffer ++ bytes <+: total → (x c).result = .ok () ∧ (x c).state.Eager total

theorem Eager.offered {total : List UInt8} (h : c.Eager total) (within : c.given ++ bytes <+: total) :
    (c.offered bytes).buffer = [] ∧ (c.offered bytes).Eager total := by
  obtain ⟨moves, -⟩ := c.offered_spec bytes
  unfold Child.offered at moves ⊢
  by_cases nothing : bytes = []
  · rw [if_pos (by simpa using nothing)] at moves ⊢
    exact ⟨rfl, h.congr moves h.free⟩
  · rw [if_neg (by simpa using nothing)] at moves ⊢
    have running : c.ended? = none := by
      obtain ⟨behind, all⟩ := within
      rw [List.append_assoc] at all
      rw [ended?, h.unasked, Option.none_or, h.inputOpen]
      exact h.goesOn c.deliveries (bytes ++ behind) (by simp [nothing]) all
    have unstopped : c.stopped? = none := by
      rw [stopped?, h.reads, running, h.free]
      rfl
    rw [unstopped, h.takes] at moves ⊢
    refine ⟨rfl, h.congr moves ?_⟩
    show (c.give bytes).stop = none
    unfold give
    split <;> exact h.free

theorem goes_pure : Goes [] (pure () : Step Unit) := fun _ _ h _ => ⟨rfl, h⟩

theorem goes_keep (bytes : List UInt8) : Goes bytes (keep bytes) := fun c _ h _ =>
  ⟨rfl, h.congr (writes_keep bytes c).moves h.free⟩

theorem goes_flush : Goes [] flush := by
  intro c total h within
  rw [List.append_nil] at within
  obtain ⟨empty, eager⟩ := h.offered within
  exact ⟨by simp [flush, empty], eager⟩

theorem goes_pass (bytes : List UInt8) {total : List UInt8} (h : c.Eager total)
    (within : c.given ++ bytes <+: total) :
    (pass bytes c).result = .ok () ∧ (pass bytes c).state.Eager total := by
  obtain ⟨empty, eager⟩ := h.offered within
  simp [pass, empty, eager]

/-- Two steps that go through do so one behind the other. -/
theorem Goes.bind (writes : ∀ c, Writes bytes c (x c)) (first : Goes bytes x) (next : Goes more y) :
    Goes (bytes ++ more) (x >>= fun _ => y) := by
  intro c total h within
  rw [← List.append_assoc] at within
  obtain ⟨done, eager⟩ := first c total h ((List.prefix_append _ _).trans within)
  have conserved := (writes c).conserves done
  obtain ⟨done', eager'⟩ := next (x c).state total eager (by rwa [conserved])
  rw [Act.bind_of_ok done]
  exact ⟨done', eager'⟩

theorem goes_write (bytes : List UInt8) : Goes bytes (write bytes) := by
  intro c total h within
  rw [write_eq]
  split
  · exact goes_keep bytes c total h within
  · have waiting : c.given ++ c.buffer ++ [] <+: total := by
      rw [List.append_nil]
      exact (List.prefix_append _ _).trans within
    obtain ⟨flushed, eager⟩ := goes_flush c total h waiting
    have conserved := (writes_flush c).conserves flushed
    rw [buffer_of_flush flushed, List.append_nil, List.append_nil] at conserved
    rw [Act.bind_of_ok flushed]
    rw [← conserved] at within
    split
    · exact ⟨rfl, eager.congr (writes_keep bytes _).moves eager.free⟩
    · exact goes_pass bytes eager within

theorem goes_perform (op : PipeOp) : Goes op.bytes (perform op) := by
  cases op with
  | write bytes => exact goes_write bytes
  | flush => exact goes_flush

theorem goes_forM {α : Type} {f : α → Step Unit} {content : α → List UInt8}
    (writes : ∀ a c, Writes (content a) c (f a c)) (each : ∀ a, Goes (content a) (f a))
    (l : List α) : Goes (l.flatMap content) (l.forM f) := by
  induction l with
  | nil => exact goes_pure
  | cons a l ih => exact (each a).bind (writes a) ih

theorem goes_put (f : Frame) : Goes f.bytes (put f) := by
  rw [← Writer.bytes_frameOps]
  exact goes_forM writes_perform goes_perform _

theorem goes_putAll (fs : List Frame) : Goes (framesBytes fs) (fs.forM put) :=
  goes_forM writes_put goes_put fs

theorem goes_tell (fs : List Frame) : Goes (framesBytes fs) (tell fs) := by
  rw [← List.append_nil (framesBytes fs)]
  exact (goes_putAll fs).bind (writes_putAll fs) goes_flush

/-! ## What the steps do not see -/

section Commutes

variable (arguments : List String) (outputRead : Nat)

end Commutes

/-! ## Reading -/

/-- Where nothing has been read, a result is read off the output that begins with it. -/
theorem read_result {r : CompileResult} (unread : c.outputRead = 0) {rest : List UInt8}
    (output : c.status.output = r.bytes ++ rest) (fits : r.Fits) (plain : r.IsPlain) :
    (c.read Reader.result).1 = .ok r := by
  have left : (Pipe.whole (c.status.output.drop c.outputRead)).rest = r.bytes ++ rest := by
    rw [unread, List.drop_zero, output]
    rfl
  exact (Reader.takes_result fits plain rest _ left).1

end Child

end PluginBuild
