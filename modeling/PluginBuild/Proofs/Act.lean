/-
# Proofs.Act -- what actions come to, one part at a time

An action's result and the state it leaves each follow from those of its parts, and so do
the events.  The equations are oriented towards the parts and tagged for `simp`, so an
action is run by giving `simp` the outcomes of the actions it is made of.

Most actions log no error whatever they come to (`Act.Silent`), and some come to the same
whatever a part of the state is (`Act.Commutes`); both are put together from their parts in the
same way.
-/
import PluginBuild.Act
import PluginBuild.Proofs.Except

namespace PluginBuild.Act

set_option autoImplicit false

variable {σ τ ε ε' α β : Type}

/-! ## Results -/

@[simp] theorem result_pure (a : α) (s : σ) : ((pure a : Act σ ε α) s).result = .ok a := rfl

@[simp] theorem result_fail (e : ε) (s : σ) : ((fail e : Act σ ε α) s).result = .error e := rfl

@[simp] theorem result_get (s : σ) : ((get : Act σ ε σ) s).result = .ok s := rfl

@[simp] theorem result_modify (f : σ → σ) (s : σ) :
    ((modify f : Act σ ε Unit) s).result = .ok () := rfl

@[simp] theorem result_leave (event : Event) (s : σ) :
    ((leave event : Act σ ε Unit) s).result = .ok () := rfl

@[simp] theorem result_log (level : Log.Level) (logger text : String) (s : σ) :
    ((log level logger text : Act σ ε Unit) s).result = .ok () := rfl

@[simp] theorem result_ofExcept (r : Except ε α) (s : σ) : (ofExcept r s).result = r := rfl

@[simp] theorem result_mapError (f : ε → ε') (x : Act σ ε α) (s : σ) :
    (x.mapError f s).result = (x s).result.mapError f := rfl

@[simp] theorem result_attempt (x : Act σ ε α) (s : σ) :
    ((x.attempt : Act σ ε' _) s).result = .ok (x s).result := rfl

@[simp] theorem result_on (part : τ → σ) (put : σ → τ → τ) (x : Act σ ε α) (t : τ) :
    (x.on part put t).result = (x (part t)).result := rfl

@[simp] theorem result_free (x : Act Unit ε α) (s : σ) :
    (x.free s).result = (x ()).result := rfl

@[simp] theorem result_bind (x : Act σ ε α) (f : α → Act σ ε β) (s : σ) :
    ((x >>= f) s).result = match (x s).result with
      | .ok a => (f a (x s).state).result
      | .error e => .error e := by
  show (Act.bind x f s).result = _
  unfold Act.bind
  rcases x s with ⟨result, state, events⟩
  cases result <;> rfl

/-- Both actions succeed where one after the other does. -/
theorem result_bind_eq_ok {x : Act σ ε α} {f : α → Act σ ε β} {s : σ} {b : β} :
    ((x >>= f) s).result = .ok b ↔
      ∃ a, (x s).result = .ok a ∧ (f a (x s).state).result = .ok b := by
  rw [result_bind]
  cases (x s).result <;> simp

@[simp] theorem result_handle (x : Act σ ε α) (f : ε → Act σ ε' α) (s : σ) :
    (x.handle f s).result = match (x s).result with
      | .ok a => .ok a
      | .error e => (f e (x s).state).result := by
  unfold Act.handle
  rcases x s with ⟨result, state, events⟩
  cases result <;> rfl

@[simp] theorem result_ite (p : Prop) [Decidable p] (x y : Act σ ε α) (s : σ) :
    ((if p then x else y) s).result = if p then (x s).result else (y s).result := by
  split <;> rfl

/-! ## States -/

@[simp] theorem state_pure (a : α) (s : σ) : ((pure a : Act σ ε α) s).state = s := rfl

@[simp] theorem state_fail (e : ε) (s : σ) : ((fail e : Act σ ε α) s).state = s := rfl

@[simp] theorem state_get (s : σ) : ((get : Act σ ε σ) s).state = s := rfl

@[simp] theorem state_modify (f : σ → σ) (s : σ) :
    ((modify f : Act σ ε Unit) s).state = f s := rfl

@[simp] theorem state_leave (event : Event) (s : σ) :
    ((leave event : Act σ ε Unit) s).state = s := rfl

@[simp] theorem state_log (level : Log.Level) (logger text : String) (s : σ) :
    ((log level logger text : Act σ ε Unit) s).state = s := rfl

@[simp] theorem state_ofExcept (r : Except ε α) (s : σ) : (ofExcept r s).state = s := rfl

@[simp] theorem state_mapError (f : ε → ε') (x : Act σ ε α) (s : σ) :
    (x.mapError f s).state = (x s).state := rfl

@[simp] theorem state_attempt (x : Act σ ε α) (s : σ) :
    ((x.attempt : Act σ ε' _) s).state = (x s).state := rfl

@[simp] theorem state_free (x : Act Unit ε α) (s : σ) : (x.free s).state = s := rfl

@[simp] theorem state_bind (x : Act σ ε α) (f : α → Act σ ε β) (s : σ) :
    ((x >>= f) s).state = match (x s).result with
      | .ok a => (f a (x s).state).state
      | .error _ => (x s).state := by
  show (Act.bind x f s).state = _
  unfold Act.bind
  rcases x s with ⟨result, state, events⟩
  cases result <;> rfl

@[simp] theorem state_handle (x : Act σ ε α) (f : ε → Act σ ε' α) (s : σ) :
    (x.handle f s).state = match (x s).result with
      | .ok _ => (x s).state
      | .error e => (f e (x s).state).state := by
  unfold Act.handle
  rcases x s with ⟨result, state, events⟩
  cases result <;> rfl

@[simp] theorem state_ite (p : Prop) [Decidable p] (x y : Act σ ε α) (s : σ) :
    ((if p then x else y) s).state = if p then (x s).state else (y s).state := by
  split <;> rfl

/-! ## Actions whose answer is only looked at -/

@[simp] theorem state_bind_pure (x : Act σ ε α) (f : α → β) (s : σ) :
    ((x >>= fun a => pure (f a)) s).state = (x s).state := by
  rw [state_bind]
  cases (x s).result <;> rfl

theorem result_bind_pure (x : Act σ ε α) (f : α → β) (s : σ) :
    ((x >>= fun a => pure (f a)) s).result = (x s).result.map f := by
  rw [result_bind]
  cases (x s).result <;> rfl

theorem result_bind_pure_eq_ok {x : Act σ ε α} {f : α → β} {s : σ} {b : β} :
    ((x >>= fun a => pure (f a)) s).result = .ok b ↔ ∃ a, (x s).result = .ok a ∧ f a = b := by
  rw [result_bind_pure]
  cases (x s).result <;> simp [Except.map]

/-! ## Events -/

@[simp] theorem events_pure (a : α) (s : σ) : ((pure a : Act σ ε α) s).events = [] := rfl

@[simp] theorem events_fail (e : ε) (s : σ) : ((fail e : Act σ ε α) s).events = [] := rfl

@[simp] theorem events_get (s : σ) : ((get : Act σ ε σ) s).events = [] := rfl

@[simp] theorem events_modify (f : σ → σ) (s : σ) :
    ((modify f : Act σ ε Unit) s).events = [] := rfl

@[simp] theorem events_leave (event : Event) (s : σ) :
    ((leave event : Act σ ε Unit) s).events = [event] := rfl

@[simp] theorem events_log (level : Log.Level) (logger text : String) (s : σ) :
    ((log level logger text : Act σ ε Unit) s).events = [.logged ⟨level, logger, text⟩] := rfl

@[simp] theorem events_ofExcept (r : Except ε α) (s : σ) : (ofExcept r s).events = [] := rfl

@[simp] theorem events_mapError (f : ε → ε') (x : Act σ ε α) (s : σ) :
    (x.mapError f s).events = (x s).events := rfl

@[simp] theorem events_attempt (x : Act σ ε α) (s : σ) :
    ((x.attempt : Act σ ε' _) s).events = (x s).events := rfl

@[simp] theorem events_free (x : Act Unit ε α) (s : σ) :
    (x.free s).events = (x ()).events := rfl

theorem events_bind (x : Act σ ε α) (f : α → Act σ ε β) (s : σ) :
    ((x >>= f) s).events = (x s).events ++ match (x s).result with
      | .ok a => (f a (x s).state).events
      | .error _ => [] := by
  show (Act.bind x f s).events = _
  unfold Act.bind
  rcases x s with ⟨result, state, events⟩
  cases result with
  | ok a => rfl
  | error e => exact (List.append_nil events).symm

/-! ## Actions for all items of a list -/

theorem forM_cons (f : α → Act σ ε Unit) (a : α) (l : List α) :
    (a :: l).forM f = (f a >>= fun _ => l.forM f) := rfl

/-- What each of several actions keeps, all of them keep. -/
theorem keeps_forM {f : α → Act σ ε Unit} {p : σ → Prop} {l : List α}
    (keeps : ∀ a ∈ l, ∀ s, p s → p (f a s).state) {s : σ} (h : p s) : p (l.forM f s).state := by
  induction l generalizing s with
  | nil => exact h
  | cons a l ih =>
      have first := keeps a List.mem_cons_self s h
      rw [forM_cons, state_bind]
      cases (f a s).result with
      | error e => exact first
      | ok => exact ih (fun b hb => keeps b (List.mem_cons_of_mem a hb)) first

/-- Of several actions all succeed, or one fails behind others that succeed and none behind it
is begun. -/
theorem forM_cases (f : α → Act σ ε Unit) (l : List α) (s : σ) :
    (l.forM f s).result = .ok () ∨
      ∃ before a after e, l = before ++ a :: after ∧ (before.forM f s).result = .ok () ∧
        (f a (before.forM f s).state).result = .error e ∧ (l.forM f s).result = .error e ∧
        (l.forM f s).state = (f a (before.forM f s).state).state := by
  induction l generalizing s with
  | nil => exact .inl rfl
  | cons a l ih =>
      simp only [forM_cons, result_bind, state_bind]
      cases first : (f a s).result with
      | error e => exact .inr ⟨[], a, l, e, rfl, rfl, first, rfl, rfl⟩
      | ok =>
          rcases ih (f a s).state with done | ⟨before, b, after, e, rfl, done, failed, result, state⟩
          · exact .inl done
          · refine .inr ⟨a :: before, b, after, e, rfl, ?_, ?_, result, ?_⟩
            · rw [forM_cons, result_bind, first]
              exact done
            · rw [forM_cons, state_bind, first]
              exact failed
            · rw [forM_cons, state_bind, first]
              exact state

/-- What an action comes to behind another that succeeds. -/
theorem bind_of_ok {x : Act σ ε α} {s : σ} {a : α} (h : (x s).result = .ok a)
    (f : α → Act σ ε β) : (x >>= f) s = ⟨(f a (x s).state).result, (f a (x s).state).state,
      (x s).events ++ (f a (x s).state).events⟩ := by
  show Act.bind x f s = _
  unfold Act.bind
  generalize x s = o at h ⊢
  rcases o with ⟨result, state, events⟩
  obtain rfl : result = .ok a := h
  rfl

/-- The records of errors among some events. -/
def errorsIn (events : List Event) : List Log.Record :=
  (events.filterMap Event.record?).filter fun r => decide (r.level = .error)

@[simp] theorem errorsIn_nil : errorsIn [] = [] := rfl

@[simp] theorem errorsIn_append (events events' : List Event) :
    errorsIn (events ++ events') = errorsIn events ++ errorsIn events' := by
  rw [errorsIn, List.filterMap_append, List.filter_append]
  rfl

/-- Whether an action logs no error, whatever it comes to. -/
def Silent (x : Act σ ε α) : Prop := ∀ s, errorsIn (x s).events = []

theorem Silent.bind {x : Act σ ε α} {f : α → Act σ ε β} (hx : x.Silent)
    (hf : ∀ a, (f a).Silent) : (x >>= f).Silent := by
  intro s
  rw [events_bind, errorsIn_append, hx s, List.nil_append]
  cases (x s).result with
  | ok a => exact hf a _
  | error e => rfl

theorem Silent.handle {x : Act σ ε α} {f : ε → Act σ ε' α} (hx : x.Silent)
    (hf : ∀ e, (f e).Silent) : (x.handle f).Silent := by
  intro s
  have quiet := hx s
  unfold Act.handle
  split
  · next h =>
    rw [h] at quiet
    exact quiet
  · next e s' events h =>
    rw [h] at quiet
    rw [errorsIn_append, quiet, hf e s', List.append_nil]

theorem Silent.mapError {x : Act σ ε α} (hx : x.Silent) (f : ε → ε') : (x.mapError f).Silent := hx

theorem Silent.attempt {x : Act σ ε α} (hx : x.Silent) :
    (x.attempt : Act σ ε' (Except ε α)).Silent := hx

theorem Silent.free {x : Act Unit ε α} (hx : x.Silent) : (x.free : Act σ ε α).Silent :=
  fun _ => hx ()

theorem Silent.ite {p : Prop} [Decidable p] {x y : Act σ ε α} (hx : x.Silent) (hy : y.Silent) :
    (if p then x else y).Silent := by
  split
  · exact hx
  · exact hy

/-! ## What an action does not see -/

/-- Whether an action comes to the same behind a change of the state as before it. -/
def Commutes (change : σ → σ) (x : Act σ ε α) : Prop :=
  ∀ s, x (change s) = ⟨(x s).result, change (x s).state, (x s).events⟩

section Commutes

variable {change : σ → σ}

theorem commutes_pure (a : α) : (pure a : Act σ ε α).Commutes change := fun _ => rfl

theorem commutes_fail (e : ε) : (fail e : Act σ ε α).Commutes change := fun _ => rfl

theorem commutes_ofExcept (r : Except ε α) : (ofExcept r : Act σ ε α).Commutes change :=
  fun _ => rfl

theorem commutes_log (level : Log.Level) (logger text : String) :
    (log level logger text : Act σ ε Unit).Commutes change := fun _ => rfl

theorem commutes_free (x : Act Unit ε α) : (x.free : Act σ ε α).Commutes change := fun _ => rfl

theorem commutes_modify {f : σ → σ} (commute : ∀ s, f (change s) = change (f s)) :
    (modify f : Act σ ε Unit).Commutes change := fun s =>
  congrArg (Outcome.mk (.ok ()) · []) (commute s)

theorem Commutes.bind {x : Act σ ε α} {f : α → Act σ ε β} (hx : x.Commutes change)
    (hf : ∀ a, (f a).Commutes change) : (x >>= f).Commutes change := by
  intro s
  show Act.bind x f (change s) = ⟨(Act.bind x f s).result, change (Act.bind x f s).state,
    (Act.bind x f s).events⟩
  unfold Act.bind
  rw [hx s]
  rcases x s with ⟨result, state, events⟩
  cases result with
  | error e => rfl
  | ok a => simp only [hf a state]

theorem Commutes.handle {x : Act σ ε α} {f : ε → Act σ ε' α} (hx : x.Commutes change)
    (hf : ∀ e, (f e).Commutes change) : (x.handle f).Commutes change := by
  intro s
  unfold Act.handle
  rw [hx s]
  rcases x s with ⟨result, state, events⟩
  cases result with
  | ok a => rfl
  | error e => simp only [hf e state]

/-- The state may be looked at where the change does not show. -/
theorem commutes_get_bind {f : σ → Act σ ε α} (blind : ∀ s, f (change s) = f s)
    (hf : ∀ s, (f s).Commutes change) : (get >>= f).Commutes change := by
  intro s
  rw [bind_of_ok (result_get (change s)), bind_of_ok (result_get s)]
  simp only [state_get, events_get, List.nil_append]
  rw [blind, hf s]

theorem Commutes.ite {p : Prop} [Decidable p] {x y : Act σ ε α} (hx : x.Commutes change)
    (hy : y.Commutes change) : (if p then x else y).Commutes change := by
  split
  · exact hx
  · exact hy

end Commutes

end PluginBuild.Act
