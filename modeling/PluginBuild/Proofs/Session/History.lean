/-
# Proofs.Session.History -- a session holds what it has been asked for

Requests are made of a session one after the other, whatever becomes of each
(`Session.requestAll`).  What the session holds then is told by the requests alone
(`Session.Reflects`): the symbols, the units of the sources, each with the symbols that were
added before its own request, and the references.  All that a request changes is in one equation
(`Session.state_act`), so one more request keeps this (`Reflects.step`).

The compiler is asked for a library by the first request to compile, of what was there then, and
by no other (`emissions_of_first`, `emissions_eq_nil`).
-/
import PluginBuild.Proofs.Library.Parse
import Mathlib.Data.List.Induction

namespace PluginBuild

set_option autoImplicit false

/-- The request for a library that an event is. -/
def Event.emission? : Event → Option (LibraryName × List SourceUnit × List String)
  | emitting name units references => some (name, units, references)
  | _ => none

/-- The requests for a library among some events. -/
def emissions (events : List Event) : List (LibraryName × List SourceUnit × List String) :=
  events.filterMap Event.emission?

@[simp] theorem emissions_append (events more : List Event) :
    emissions (events ++ more) = emissions events ++ emissions more := List.filterMap_append

/-! ## Actions that ask for no library -/

/-- Whether an action asks for no library, whatever it comes to. -/
def Act.AsksNone {σ ε α : Type} (x : Act σ ε α) : Prop := ∀ s, emissions (x s).events = []

namespace Act

variable {σ ε ε' α β : Type}

theorem asksNone_pure (a : α) : (pure a : Act σ ε α).AsksNone := fun _ => rfl

theorem asksNone_fail (e : ε) : (fail e : Act σ ε α).AsksNone := fun _ => rfl

theorem asksNone_get : (get : Act σ ε σ).AsksNone := fun _ => rfl

theorem asksNone_modify (f : σ → σ) : (modify f : Act σ ε Unit).AsksNone := fun _ => rfl

theorem asksNone_ofExcept (r : Except ε α) : (ofExcept r : Act σ ε α).AsksNone := fun _ => rfl

theorem asksNone_leave {event : Event} (other : event.emission? = none) :
    (leave event : Act σ ε Unit).AsksNone :=
  fun _ => List.filterMap_cons_none other

theorem AsksNone.bind {x : Act σ ε α} {f : α → Act σ ε β} (hx : x.AsksNone)
    (hf : ∀ a, (f a).AsksNone) : (x >>= f).AsksNone := by
  intro s
  rw [events_bind, emissions_append, hx s, List.nil_append]
  cases (x s).result with
  | ok a => exact hf a _
  | error e => rfl

theorem AsksNone.mapError {x : Act σ ε α} (hx : x.AsksNone) (f : ε → ε') :
    (x.mapError f).AsksNone := hx

theorem AsksNone.free {x : Act Unit ε α} (hx : x.AsksNone) : (x.free : Act σ ε α).AsksNone :=
  fun _ => hx ()

end Act

/-- What a session relies on a compiler for: a unit has the options it was parsed with, and the
compiler asks for no library itself. -/
structure Compiler.IsFaithful (c : Compiler) : Prop where
  options : ∀ path options unit,
    (c.parse path options ()).result = .ok unit → unit.options = options
  parse : ∀ path options, (c.parse path options).AsksNone
  emit : ∀ name units references, (c.emit name units references).AsksNone

namespace Session

/-! ## Requests -/

/-- Something that a session can be asked for. -/
inductive Request where
  | addSymbol (symbol : String)
  | addSource (path : String)
  | addReference (path : String)
  | enableShim
  | compile
deriving DecidableEq

namespace Request

/-- What a session does when it is asked. -/
def act (c : Compiler) : Request → Act Session SessionError Unit
  | addSymbol symbol => Session.addSymbol symbol
  | addSource path => do
    let _ ← Session.addSource c path
    return ()
  | addReference path => Session.addReference path
  | enableShim => Session.enableShim
  | compile => do
    let _ ← Session.compile c
    return ()

/-- The symbol that is asked to be added. -/
def symbol? : Request → Option String
  | addSymbol symbol => some symbol
  | _ => none

/-- The source that is asked to be added. -/
def source? : Request → Option String
  | addSource path => some path
  | _ => none

/-- The reference that is asked for, where `shim` stands in for a full runtime. -/
def reference? (shim : Option Path) : Request → Option String
  | addReference path => some path
  | enableShim => shim.map Path.text
  | _ => none

end Request

/-- Makes requests in order, whatever becomes of each, and collects how they ended. -/
def requestAll (c : Compiler) :
    List Request → Act Session SessionError (List (Except SessionError Unit))
  | [] => return []
  | r :: rs => do
    let ended ← (r.act c).attempt
    let others ← requestAll c rs
    return ended :: others

/-- The symbols that are asked to be added. -/
def symbolsIn (rs : List Request) : SymbolSet := .ofList (rs.filterMap Request.symbol?)

/-- The references that are asked for, each where it is asked for first. -/
def referencesIn (shim : Option Path) (rs : List Request) : List String :=
  (rs.filterMap (Request.reference? shim)).eraseDups

/-- The sources that are asked for behind other requests, each with all requests before it. -/
def sourcesBehind (before : List Request) : List Request → List (List Request × String)
  | [] => []
  | r :: rs => (r.source?.map (before, ·)).toList ++ sourcesBehind (before ++ [r]) rs

/-- The units that are made of sources, each with the requests before its own: what parsing
gives with the symbols asked for until then, where it does not fail. -/
def parsedIn (c : Compiler) (version : Option LanguageVersion) (rs : List Request) :
    List (List Request × SourceUnit) :=
  (sourcesBehind [] rs).filterMap fun (before, path) =>
    (c.parse path ⟨version, symbolsIn before⟩ ()).result.toOption.map (before, ·)

variable {c : Compiler} {s : Session} {name : LibraryName} {shim : Option Path}
  {version : Option LanguageVersion} {rs : List Request}

/-! ### Requests in order -/

theorem requestAll_cons (r : Request) (rs : List Request) (s : Session) :
    (requestAll c (r :: rs) s).state = (requestAll c rs (r.act c s).state).state ∧
      (requestAll c (r :: rs) s).events =
        (r.act c s).events ++ (requestAll c rs (r.act c s).state).events := by
  simp only [requestAll, Act.state_bind, Act.events_bind, Act.result_attempt, Act.state_attempt,
    Act.events_attempt]
  cases (requestAll c rs (r.act c s).state).result <;> simp

theorem requestAll_append (rs more : List Request) (s : Session) :
    (requestAll c (rs ++ more) s).state =
        (requestAll c more (requestAll c rs s).state).state ∧
      (requestAll c (rs ++ more) s).events =
        (requestAll c rs s).events ++ (requestAll c more (requestAll c rs s).state).events := by
  induction rs generalizing s with
  | nil => exact ⟨rfl, rfl⟩
  | cons r rs ih =>
      obtain ⟨state, events⟩ := ih (r.act c s).state
      rw [List.cons_append, (requestAll_cons r _ s).1, (requestAll_cons r _ s).2,
        (requestAll_cons r rs s).1, (requestAll_cons r rs s).2, state, events, List.append_assoc]
      exact ⟨rfl, rfl⟩

theorem state_requestAll_concat (rs : List Request) (r : Request) (s : Session) :
    (requestAll c (rs ++ [r]) s).state = (r.act c (requestAll c rs s).state).state := by
  rw [(requestAll_append rs [r] s).1, (requestAll_cons r [] _).1]
  rfl

/-! ### What is asked for -/

theorem sourcesBehind_append (before rs more : List Request) :
    sourcesBehind before (rs ++ more) =
      sourcesBehind before rs ++ sourcesBehind (before ++ rs) more := by
  induction rs generalizing before with
  | nil => rw [List.append_nil]; rfl
  | cons r rs ih =>
      rw [List.cons_append, sourcesBehind, ih, sourcesBehind, List.append_assoc, List.append_assoc]
      rfl

theorem eq_addSource_of_source? {r : Request} {path : String} (h : r.source? = some path) :
    r = .addSource path := by
  cases r with
  | addSource path' => exact congrArg Request.addSource (Option.some.inj h)
  | addSymbol | addReference | enableShim | compile => cases h

/-- The requests that stand with a source are those before it. -/
theorem mem_sourcesBehind {before : List Request} {path : String} {front : List Request} :
    (front, path) ∈ sourcesBehind before rs ↔
      ∃ between after, rs = between ++ .addSource path :: after ∧ front = before ++ between := by
  induction rs generalizing before with
  | nil => simp [sourcesBehind]
  | cons r rs ih =>
      simp only [sourcesBehind, List.mem_append, Option.mem_toList, Option.map_eq_some_iff, ih]
      constructor
      · rintro (⟨path', source, eq⟩ | ⟨between, after, rfl, rfl⟩)
        · obtain ⟨rfl, rfl⟩ := Prod.mk.injEq .. ▸ eq
          exact ⟨[], rs, by rw [eq_addSource_of_source? source]; rfl, (List.append_nil _).symm⟩
        · exact ⟨r :: between, after, rfl, by rw [List.append_assoc]; rfl⟩
      · rintro ⟨between, after, eq, rfl⟩
        cases between with
        | nil =>
            obtain ⟨rfl, -⟩ := List.cons.inj eq
            exact .inl ⟨path, rfl, by rw [List.append_nil]⟩
        | cons r' between =>
            obtain ⟨rfl, rfl⟩ := List.cons.inj eq
            exact .inr ⟨between, after, rfl, by rw [List.append_assoc]; rfl⟩

theorem parsedIn_concat (c : Compiler) (version : Option LanguageVersion) (rs : List Request)
    (r : Request) :
    parsedIn c version (rs ++ [r]) = parsedIn c version rs ++
      (r.source?.bind fun path =>
        (c.parse path ⟨version, symbolsIn rs⟩ ()).result.toOption.map (rs, ·)).toList := by
  rw [parsedIn, sourcesBehind_append, List.filterMap_append, parsedIn, sourcesBehind]
  cases r.source? with
  | none => rfl
  | some path =>
      simp only [sourcesBehind]
      cases (c.parse path ⟨version, symbolsIn rs⟩ ()).result <;> rfl

theorem symbolsIn_concat (rs : List Request) (r : Request) :
    symbolsIn (rs ++ [r]) = r.symbol?.elim (symbolsIn rs) (symbolsIn rs).insert := by
  simp only [symbolsIn, SymbolSet.ofList, List.filterMap_append, List.foldl_append]
  cases r <;> rfl

theorem eraseDups_concat (l : List String) (x : String) :
    (l ++ [x]).eraseDups = if l.contains x then l.eraseDups else l.eraseDups ++ [x] := by
  rw [List.eraseDups_append]
  by_cases h : x ∈ l <;> simp [List.removeAll, List.eraseDups_cons, h]

theorem nodup_eraseDups (l : List String) : l.eraseDups.Nodup := by
  induction l using List.reverseRecOn with
  | nil => exact List.nodup_nil
  | append_singleton l x ih =>
      rw [eraseDups_concat]
      split
      · exact ih
      · next absent =>
        rw [List.contains_eq_mem, decide_eq_true_eq] at absent
        refine List.nodup_append.2 ⟨ih, List.pairwise_singleton _ x, ?_⟩
        rintro y hy z hz rfl
        exact absent (List.mem_singleton.1 hz ▸ List.mem_eraseDups.1 hy)

theorem referencesIn_concat (shim : Option Path) (rs : List Request) (r : Request) :
    referencesIn shim (rs ++ [r]) = (r.reference? shim).elim (referencesIn shim rs) fun path =>
      if (referencesIn shim rs).contains path then referencesIn shim rs
      else referencesIn shim rs ++ [path] := by
  rw [referencesIn, List.filterMap_append]
  cases asked : r.reference? shim with
  | none => simp [asked, referencesIn]
  | some path =>
      rw [List.filterMap_cons_some asked, List.filterMap_nil, eraseDups_concat]
      simp [referencesIn]

/-! ## What a request does to a session -/

theorem state_addSource (path : String) (s : Session) :
    (addSource c path s).state =
      { s with units := s.units ++ (c.parse path s.options ()).result.toOption.toList } := by
  simp only [addSource, Act.state_bind, Act.result_get, Act.state_get, Act.result_leave,
    Act.state_leave, Act.result_free, Act.result_mapError, Act.state_free]
  cases (c.parse path s.options ()).result with
  | error e => exact congrArg (Session.mk _ _ _ _ · _ _) (List.append_nil _).symm
  | ok unit => rfl

theorem state_addReference (path : String) (s : Session) :
    (addReference path s).state =
      { s with
        references :=
          if s.references.contains path then s.references else s.references ++ [path] } := by
  rw [addReference, Act.state_modify]
  split <;> rfl

theorem state_enableShim (s : Session) :
    (enableShim s).state = s.shim.elim s fun path => (addReference path.text s).state := by
  simp only [enableShim, Act.state_bind, Act.result_get, Act.state_get]
  cases s.shim <;> rfl

/-- All that a request changes. -/
theorem state_act (r : Request) (s : Session) :
    (r.act c s).state =
      { s with
        symbols := r.symbol?.elim s.symbols s.symbols.insert
        options :=
          { s.options with symbols := r.symbol?.elim s.options.symbols s.symbols.insert }
        units := s.units ++ (r.source?.bind fun path =>
          (c.parse path s.options ()).result.toOption).toList
        references := (r.reference? s.shim).elim s.references fun path =>
          if s.references.contains path then s.references else s.references ++ [path]
        compiled := s.compiled || decide (r = .compile) } := by
  obtain ⟨name, shim, symbols, options, units, references, compiled⟩ := s
  cases r with
  | addSymbol symbol =>
      simp [Request.act, addSymbol, Request.symbol?, Request.source?, Request.reference?]
  | addSource path =>
      rw [Request.act, Act.state_bind_pure, state_addSource]
      simp [Request.symbol?, Request.source?, Request.reference?]
  | addReference path =>
      rw [Request.act, state_addReference]
      simp [Request.symbol?, Request.source?, Request.reference?]
  | enableShim =>
      rw [Request.act, state_enableShim]
      cases shim <;> simp [Request.symbol?, Request.source?, Request.reference?, state_addReference]
  | compile =>
      rw [Request.act, Act.state_bind_pure, state_compile]
      simp [Request.symbol?, Request.source?, Request.reference?]

/-- A session that has compiled refuses to do so again, and that is all. -/
theorem compile_of_compiled (compiled : s.compiled = true) :
    compile c s = ⟨.error (.alreadyCompiled s.name), s, []⟩ := by
  rw [compile, Act.bind_of_ok (Act.result_get s)]
  simp only [Act.state_get, Act.events_get, compiled, if_true]
  rfl

theorem asksNone_addSource (faithful : c.IsFaithful) (path : String) :
    (addSource c path).AsksNone := by
  refine Act.asksNone_get.bind fun s => (Act.asksNone_leave rfl).bind fun _ => ?_
  refine ((faithful.parse path s.options).mapError _).free.bind fun _ => ?_
  exact (Act.asksNone_modify _).bind fun _ => (Act.asksNone_leave rfl).bind fun _ =>
    Act.asksNone_pure _

theorem asksNone_addReference (path : String) : (addReference path).AsksNone :=
  Act.asksNone_modify _

theorem asksNone_enableShim : enableShim.AsksNone := by
  refine Act.asksNone_get.bind fun s => ?_
  cases s.shim with
  | none => exact Act.asksNone_fail _
  | some path => exact asksNone_addReference path.text

/-- Only a request to compile asks for a library. -/
theorem asksNone_act {r : Request} (faithful : c.IsFaithful) (other : r ≠ .compile) :
    (r.act c).AsksNone := by
  cases r with
  | addSymbol symbol => exact Act.asksNone_modify _
  | addSource path => exact (asksNone_addSource faithful path).bind fun _ => Act.asksNone_pure _
  | addReference path => exact asksNone_addReference path
  | enableShim => exact asksNone_enableShim
  | compile => exact absurd rfl other

/-- The first request to compile asks for a library of what the session holds. -/
theorem emissions_compile (faithful : c.IsFaithful) (first : s.compiled = false) :
    emissions (compile c s).events = [(s.name, s.units, s.references)] := by
  have emits : emissions (c.emit s.name s.units s.references ()).events = [] :=
    faithful.emit _ _ _ ()
  simp only [compile, Act.events_bind, Act.result_get, Act.state_get, first, Bool.false_eq_true,
    if_false, Act.result_modify, Act.state_modify, Act.result_leave, Act.state_leave,
    Act.events_get, Act.events_modify, Act.events_leave, Act.events_free, Act.events_mapError,
    Act.result_free, Act.result_mapError, emissions_append, emits]
  cases (c.emit s.name s.units s.references ()).result <;> rfl

theorem act_compile (s : Session) :
    (Request.act c .compile s).state = { s with compiled := true } ∧
      (Request.act c .compile s).events = (compile c s).events := by
  rw [Request.act, Act.state_bind_pure, Act.events_bind, state_compile]
  cases (compile c s).result <;> exact ⟨rfl, List.append_nil _⟩

/-- The requests that a session refuses without a change: a source that the compiler does not
get through, an archive that is not there, and compiling once more. -/
structure Refuses (c : Compiler) (s : Session) : Prop where
  source : ∀ path e, (c.parse path s.options ()).result = .error e →
    (addSource c path s).result = .error (.compiler e) ∧ (addSource c path s).state = s
  shim : s.shim = none →
    (enableShim s).result = .error .noShim ∧ (enableShim s).state = s
  again : s.compiled = true → compile c s = ⟨.error (.alreadyCompiled s.name), s, []⟩

theorem refuses (c : Compiler) (s : Session) : Refuses c s where
  source path e fails := by
    rw [addSource_eq, state_addSource, fails]
    exact ⟨rfl, congrArg (Session.mk _ _ _ _ · _ _) (List.append_nil _)⟩
  shim := enableShim_none
  again := compile_of_compiled

/-! ## What requests leave -/

/-- What a session holds once requests have been made of a fresh one. -/
structure Reflects (c : Compiler) (name : LibraryName) (shim : Option Path)
    (version : Option LanguageVersion) (rs : List Request) (s : Session) : Prop where
  named : s.name = name
  shimmed : s.shim = shim
  symbols : s.symbols = symbolsIn rs
  options : s.options = ⟨version, s.symbols⟩
  units : s.units = (parsedIn c version rs).map Prod.snd
  references : s.references = referencesIn shim rs
  compiled : s.compiled = true ↔ .compile ∈ rs

theorem reflects_fresh (c : Compiler) (name : LibraryName) (shim : Option Path)
    (version : Option LanguageVersion) :
    Reflects c name shim version [] (fresh name shim version) where
  named := rfl
  shimmed := rfl
  symbols := rfl
  options := rfl
  units := rfl
  references := rfl
  compiled := ⟨Bool.noConfusion, List.not_mem_nil.elim⟩

/-- One more request adds what it asks for to what the session holds. -/
theorem Reflects.step (h : Reflects c name shim version rs s) (r : Request) :
    Reflects c name shim version (rs ++ [r]) (r.act c s).state := by
  rw [state_act]
  obtain ⟨rfl, rfl, symbols, options, units, references, compiled⟩ := h
  refine ⟨rfl, rfl, ?_, ?_, ?_, ?_, ?_⟩
  · rw [symbolsIn_concat, symbols]
  · rw [options]
  · rw [parsedIn_concat, List.map_append, units, options, symbols]
    cases r.source? with
    | none => rfl
    | some path =>
        simp only [Option.bind_some]
        cases (c.parse path ⟨version, symbolsIn rs⟩ ()).result <;> rfl
  · rw [referencesIn_concat, references]
  · rw [Bool.or_eq_true, decide_eq_true_eq, compiled, List.mem_append, List.mem_singleton,
      eq_comm (a := r)]

theorem reflects_requestAll (c : Compiler) (name : LibraryName) (shim : Option Path)
    (version : Option LanguageVersion) (rs : List Request) :
    Reflects c name shim version rs (requestAll c rs (fresh name shim version)).state := by
  induction rs using List.reverseRecOn with
  | nil => exact reflects_fresh c name shim version
  | append_singleton rs r ih =>
      rw [state_requestAll_concat]
      exact ih.step r

/-! ## What the compiler is asked for -/

/-- No library is asked for without a request to compile, nor behind one. -/
theorem emissions_eq_nil (faithful : c.IsFaithful)
    (none : s.compiled = true ∨ .compile ∉ rs) : emissions (requestAll c rs s).events = [] := by
  induction rs generalizing s with
  | nil => rfl
  | cons r rs ih =>
      rw [(requestAll_cons r rs s).2, emissions_append]
      by_cases compiles : r = .compile
      · subst compiles
        have again := none.resolve_right fun absent => absent List.mem_cons_self
        obtain ⟨state, events⟩ := act_compile (c := c) s
        rw [events, compile_of_compiled again, state, ih (.inl rfl)]
        rfl
      · have kept : (r.act c s).state.compiled = s.compiled := by
          rw [state_act, decide_eq_false compiles, Bool.or_false]
        rw [asksNone_act faithful compiles s, ih, List.append_nil]
        rw [kept]
        exact none.imp_right fun absent later => absent (List.mem_cons_of_mem _ later)

/-- The first request to compile has a library asked for, of what was there then. -/
theorem emissions_of_first {before after : List Request} (faithful : c.IsFaithful)
    (name : LibraryName) (shim : Option Path) (version : Option LanguageVersion)
    (first : .compile ∉ before) :
    emissions (requestAll c (before ++ .compile :: after) (fresh name shim version)).events =
      [(name, (parsedIn c version before).map Prod.snd, referencesIn shim before)] := by
  have held := reflects_requestAll c name shim version before
  have unspent := Bool.eq_false_iff.2 (mt held.compiled.1 first)
  obtain ⟨state, events⟩ :=
    act_compile (c := c) (requestAll c before (fresh name shim version)).state
  rw [(requestAll_append before _ _).2, (requestAll_cons _ after _).2, emissions_append,
    emissions_append, emissions_eq_nil faithful (.inr first), events,
    emissions_compile faithful unspent, state, emissions_eq_nil faithful (.inl rfl),
    held.named, held.units, held.references]
  rfl

/-! ## Whole runs -/

/-- What comes of requests that are made of a fresh session, whatever became of each: what is
held and refused then, where each unit came from, and what the compiler was asked for. -/
structure Recounts (c : Compiler) (name : LibraryName) (shim : Option Path)
    (version : Option LanguageVersion) (rs : List Request) : Prop where
  reflects : Reflects c name shim version rs (requestAll c rs (fresh name shim version)).state
  refuses : Refuses c (requestAll c rs (fresh name shim version)).state
  parsed : ∀ before unit, (before, unit) ∈ parsedIn c version rs →
    unit.symbols = symbolsIn before ∧ ∃ path after, rs = before ++ .addSource path :: after ∧
      (c.parse path ⟨version, symbolsIn before⟩ ()).result = .ok unit
  distinct : (referencesIn shim rs).Nodup
  unasked : .compile ∉ rs →
    emissions (requestAll c rs (fresh name shim version)).events = []
  asked : ∀ before after, rs = before ++ .compile :: after → .compile ∉ before →
    emissions (requestAll c rs (fresh name shim version)).events =
      [(name, (parsedIn c version before).map Prod.snd, referencesIn shim before)]

theorem parsedIn_symbols (faithful : c.IsFaithful) {before : List Request} {unit : SourceUnit}
    (h : (before, unit) ∈ parsedIn c version rs) :
    unit.symbols = symbolsIn before ∧ ∃ path after, rs = before ++ .addSource path :: after ∧
      (c.parse path ⟨version, symbolsIn before⟩ ()).result = .ok unit := by
  obtain ⟨⟨front, path⟩, source, parsed⟩ := List.mem_filterMap.1 h
  obtain ⟨between, after, rfl, rfl⟩ := mem_sourcesBehind.1 source
  obtain ⟨unit', answered, eq⟩ := Option.map_eq_some_iff.1 parsed
  obtain ⟨rfl, rfl⟩ := Prod.mk.inj eq
  have parses := toOption_eq_some_iff.1 answered
  refine ⟨?_, path, after, rfl, parses⟩
  rw [SourceUnit.symbols, faithful.options _ _ _ parses]

/-- Requests of a fresh session are told by what it holds at the end, whatever they are and
whatever becomes of each. -/
theorem recounts_requestAll (faithful : c.IsFaithful) (name : LibraryName) (shim : Option Path)
    (version : Option LanguageVersion) (rs : List Request) :
    Recounts c name shim version rs where
  reflects := reflects_requestAll c name shim version rs
  refuses := refuses c _
  parsed _ _ := parsedIn_symbols faithful
  distinct := nodup_eraseDups _
  unasked absent := emissions_eq_nil faithful (.inr absent)
  asked := by
    rintro before after rfl first
    exact emissions_of_first faithful name shim version first

end Session

namespace Compiler

theorem isFaithful_quiet : quiet.IsFaithful where
  options := by
    rintro path options unit ⟨⟩
    rfl
  parse _ _ := Act.asksNone_pure _
  emit _ _ _ := Act.asksNone_pure _

theorem asksNone_parseSource (files : FileSystem) (front : FrontEnd) (path : String)
    (options : ParseOptions) : (parseSource files front path options).AsksNone := by
  simp only [parseSource]
  split
  · exact Act.asksNone_fail _
  · split
    · exact Act.asksNone_pure _
    · split
      · exact Act.asksNone_pure _
      · exact (Act.asksNone_leave rfl).bind fun _ => (Act.asksNone_ofExcept _).bind fun _ =>
          Act.asksNone_pure _

theorem asksNone_emitUnits (front : FrontEnd) (optimize : Int) (taken : List (String × String))
    (units : List SourceUnit) : (emitUnits front optimize taken units).AsksNone := by
  induction units generalizing taken with
  | nil => exact Act.asksNone_pure _
  | cons u units ih =>
      unfold emitUnits
      split
      · exact (ih taken).bind fun _ => Act.asksNone_pure _
      · split
        · exact (ih taken).bind fun _ => Act.asksNone_pure _
        · exact (Act.asksNone_leave rfl).bind fun _ => (Act.asksNone_ofExcept _).bind fun _ =>
            (ih _).bind fun _ => Act.asksNone_pure _

theorem asksNone_emitLibrary (encode : Payload → List UInt8) (files : FileSystem)
    (front : FrontEnd) (optimize : Int) (name : LibraryName) (units : List SourceUnit)
    (references : List String) :
    (emitLibrary encode files front optimize name units references).AsksNone := by
  refine (asksNone_emitUnits front optimize [] units).bind fun (ofUnits, modules) => ?_
  refine (Act.asksNone_ofExcept _).bind fun ofReferences => ?_
  dsimp only
  split <;> exact Act.asksNone_pure _

theorem isFaithful_scripts (files : FileSystem) (front : FrontEnd) (optimize : Int) :
    (scripts files front optimize).IsFaithful where
  options path options unit parsed := by
    rw [parse_scripts] at parsed
    exact (of_parseSource parsed).2.2.1
  parse path options := by
    rw [parse_scripts]
    exact asksNone_parseSource files front path options
  emit := asksNone_emitLibrary Payload.encode files front optimize

end Compiler

/-- Requests that add symbols between sources and compile between them too. -/
def Session.interleaved : List Session.Request :=
  [.addSymbol "A", .addSource "one.py", .addSymbol "B", .addSource "two.py", .compile,
    .addSource "three.py", .compile]

/-- The compiler of scripts is one that this holds of, in a directory without the sources too;
where every source parses, each has the symbols that were added before it. -/
theorem Session.recounts_interleaved :
    (Compiler.scripts ⟨.dir [], []⟩ Compiler.refusing (-1)).IsFaithful ∧
      Recounts (Compiler.scripts ⟨.dir [], []⟩ Compiler.refusing (-1)) (some "Scripts") none none
        interleaved ∧
      Compiler.quiet.IsFaithful ∧
      (requestAll .quiet interleaved (fresh (some "Scripts") none none)).state.units.map
        (·.symbols.toList) = [["A"], ["A", "B"], ["A", "B"]] := by
  have scripts := Compiler.isFaithful_scripts ⟨.dir [], []⟩ Compiler.refusing (-1)
  have quiet := Compiler.isFaithful_quiet
  have held := (recounts_requestAll quiet (some "Scripts") none none interleaved).reflects
  refine ⟨scripts, recounts_requestAll scripts _ _ _ _, quiet, ?_⟩
  rw [held.units]
  decide

end PluginBuild
