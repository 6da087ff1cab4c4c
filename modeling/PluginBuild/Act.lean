/-
# Act -- actions that can fail and leave a trace

An action reads and changes a state, leaves a list of events, and returns a value
or fails.  A failure undoes nothing: what the state and the events were when it
happened is what they are afterwards.
-/
import PluginBuild.Library.Name
import PluginBuild.Log
import PluginBuild.Source.Unit

namespace PluginBuild

set_option autoImplicit false

/-- What an action lets the outside see. -/
inductive Event where
  /-- a log record was written -/
  | logged (record : Log.Record)
  /-- the compiler of a session was asked to parse a source -/
  | parsing (path : String) (options : ParseOptions)
  /-- the compiler of a session was asked for a library -/
  | emitting (name : LibraryName) (units : List SourceUnit) (references : List String)
  /-- the language was asked for a tree -/
  | treeAsked (path text : String) (version : Option LanguageVersion)
  /-- the language was asked for a body -/
  | bodyAsked (path : String) (optimize : Int)
deriving DecidableEq

/-- The log record that an event is. -/
def Event.record? : Event → Option Log.Record
  | logged record => some record
  | _ => none

structure Outcome (σ ε α : Type) where
  result : Except ε α
  state : σ
  events : List Event

def Act (σ ε α : Type) : Type := σ → Outcome σ ε α

namespace Act

variable {σ τ ε ε' α β : Type}

/-- Returns a value. -/
protected def pure (a : α) : Act σ ε α := fun s => ⟨.ok a, s, []⟩

/-- One action after another. -/
protected def bind (x : Act σ ε α) (f : α → Act σ ε β) : Act σ ε β := fun s =>
  match x s with
  | ⟨.error e, s', events⟩ => ⟨.error e, s', events⟩
  | ⟨.ok a, s', events⟩ =>
    let next := f a s'
    { next with events := events ++ next.events }

instance : Monad (Act σ ε) where
  pure := Act.pure
  bind := Act.bind

def fail (e : ε) : Act σ ε α := fun s => ⟨.error e, s, []⟩

def get : Act σ ε σ := fun s => ⟨.ok s, s, []⟩

def modify (f : σ → σ) : Act σ ε Unit := fun s => ⟨.ok (), f s, []⟩

def leave (event : Event) : Act σ ε Unit := fun s => ⟨.ok (), s, [event]⟩

def log (level : Log.Level) (logger text : String) : Act σ ε Unit := leave (.logged ⟨level, logger, text⟩)

/-- Turns a result into an action. -/
def ofExcept (r : Except ε α) : Act σ ε α := fun s => ⟨r, s, []⟩

def handle (x : Act σ ε α) (f : ε → Act σ ε' α) : Act σ ε' α := fun s =>
  match x s with
  | ⟨.ok a, s', events⟩ => ⟨.ok a, s', events⟩
  | ⟨.error e, s', events⟩ =>
    let next := f e s'
    { next with events := events ++ next.events }

def mapError (f : ε → ε') (x : Act σ ε α) : Act σ ε' α := fun s =>
  let o := x s
  ⟨o.result.mapError f, o.state, o.events⟩

/-- The result of an action as a value. -/
def attempt (x : Act σ ε α) : Act σ ε' (Except ε α) := fun s =>
  let o := x s
  ⟨.ok o.result, o.state, o.events⟩

/-- An action on a part of the state. -/
def on (part : τ → σ) (put : σ → τ → τ) (x : Act σ ε α) : Act τ ε α := fun t =>
  let o := x (part t)
  ⟨o.result, put o.state t, o.events⟩

/-- An action that needs no state. -/
def free (x : Act Unit ε α) : Act σ ε α := fun s =>
  let o := x ()
  ⟨o.result, s, o.events⟩

/-! ## Measures of the state -/

/-- Whether an action never makes the state larger. -/
def NeverGrows (size : σ → Nat) (x : Act σ ε α) : Prop := ∀ s, size (x s).state ≤ size s

theorem NeverGrows.bind {size : σ → Nat} {x : Act σ ε α} {f : α → Act σ ε β}
    (hx : x.NeverGrows size) (hf : ∀ a, (f a).NeverGrows size) : (x >>= f).NeverGrows size := by
  intro s
  have := hx s
  show size (Act.bind x f s).state ≤ size s
  unfold Act.bind
  split
  · next h => rw [h] at this; exact this
  · next h => rw [h] at this; exact Nat.le_trans (hf _ _) this

theorem neverGrows_pure {size : σ → Nat} (a : α) : (pure a : Act σ ε α).NeverGrows size :=
  fun _ => Nat.le_refl _

theorem neverGrows_fail {size : σ → Nat} (e : ε) : (fail e : Act σ ε α).NeverGrows size :=
  fun _ => Nat.le_refl _

theorem NeverGrows.handle {size : σ → Nat} {x : Act σ ε α} {f : ε → Act σ ε' α}
    (hx : x.NeverGrows size) (hf : ∀ e, (f e).NeverGrows size) : (x.handle f).NeverGrows size := by
  intro s
  have := hx s
  unfold Act.handle
  split
  · next h => rw [h] at this; exact this
  · next h => rw [h] at this; exact Nat.le_trans (hf _ _) this

theorem NeverGrows.mapError {size : σ → Nat} {x : Act σ ε α} (hx : x.NeverGrows size)
    (f : ε → ε') : (x.mapError f).NeverGrows size := hx

end Act

end PluginBuild
