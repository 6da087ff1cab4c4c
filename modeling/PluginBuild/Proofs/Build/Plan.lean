/-
# Proofs.Build.Plan -- every source that is planned sees every symbol that is planned

A plan is requests of a session, written as frames (`Build.requests`, `plan_eq_ok_iff`), and
replaying the frames is making the requests (`Session.replay_frames`).  So what a plan leaves in a
session is told by its requests: all that add a symbol, the one for the small runtime too, stand
in front of the first that adds a source, and every source is parsed with the symbols that the
session has in the end (`plan_captured`).
-/
import PluginBuild.Proofs.Build.Transparency
import PluginBuild.Proofs.Session.History
import Mathlib.Data.List.Forall2

namespace PluginBuild

set_option autoImplicit false

open PluginBuild.Wire

/-- The symbol that a frame adds. -/
def Wire.Frame.symbol? : Frame → Option String
  | ⟨.addSymbol, [symbol]⟩ => some symbol
  | _ => none

/-- The symbols that frames add. -/
def symbolsOf (frames : List Frame) : SymbolSet := .ofList (frames.filterMap Frame.symbol?)

/-- Whether a compiler labels each unit with what it was asked to parse. -/
structure Compiler.Labels (c : Compiler) : Prop where
  path : ∀ path options unit, (c.parse path options ()).result = .ok unit → unit.path = path
  options : ∀ path options unit,
    (c.parse path options ()).result = .ok unit → unit.options = options

theorem Compiler.labels_scripts (files : FileSystem) (front : FrontEnd) (optimize : Int) :
    (scripts files front optimize).Labels where
  path _ _ _ parsed := (of_parseSource (parse_scripts files front optimize ▸ parsed)).1
  options _ _ _ parsed := (of_parseSource (parse_scripts files front optimize ▸ parsed)).2.2.1

/-- Where all members of a list succeed, what they come to stands in their order. -/
theorem forall₂_filterMap {ε α β : Type} {f : α → Except ε β} {l : List α}
    (succeed : ∀ a ∈ l, ∃ b, f a = .ok b) :
    List.Forall₂ (fun a b => f a = .ok b) l (l.filterMap fun a => (f a).toOption) := by
  induction l with
  | nil => exact .nil
  | cons a l ih =>
      obtain ⟨⟨b, first⟩, others⟩ := List.forall_mem_cons.1 succeed
      rw [List.filterMap_cons, first]
      exact .cons first (ih others)

namespace Session

variable {c : Compiler} {s : Session} {rs : List Request}

/-! ## Requests as frames -/

/-- The frame that makes a request. -/
def Request.frame : Request → Frame
  | addSymbol symbol => ⟨.addSymbol, [symbol]⟩
  | addSource path => ⟨.addSource, [path]⟩
  | addReference path => ⟨.addReference, [path]⟩
  | enableShim => ⟨.enableShim, []⟩
  | compile => ⟨.compile, []⟩

theorem Request.symbol?_frame (r : Request) : r.frame.symbol? = r.symbol? := by
  cases r <;> rfl

theorem symbolsOf_frames (rs : List Request) :
    symbolsOf (rs.map Request.frame) = symbolsIn rs := by
  have same : Frame.symbol? ∘ Request.frame = Request.symbol? := funext Request.symbol?_frame
  rw [symbolsOf, symbolsIn, List.filterMap_map, same]

theorem state_perform_frame (r : Request) (s : Session) :
    (perform c r.frame s).state = (r.act c s).state := by
  cases r with
  | addSymbol symbol => exact Act.state_bind_pure ..
  | addReference path => exact Act.state_bind_pure ..
  | enableShim => exact Act.state_bind_pure ..
  | addSource path => exact (Act.state_bind_pure ..).trans (Act.state_bind_pure ..).symm
  | compile => exact (Act.state_bind_pure ..).trans (Act.state_bind_pure ..).symm

/-- Whether a request succeeds wherever it is made, if there is an archive to refer to. -/
def Request.Succeeds (c : Compiler) : Request → Prop
  | addSource path => ∀ options, ∃ unit, (c.parse path options ()).result = .ok unit
  | compile => False
  | _ => True

theorem result_perform_frame {r : Request} (shimmed : s.shim ≠ none) (succeeds : r.Succeeds c) :
    (perform c r.frame s).result = .ok none := by
  have other : r ≠ .compile := by
    rintro rfl
    exact succeeds
  have admits : s.Admits r.frame.action := by
    cases r with
    | addSymbol | addSource | addReference => exact admits_of_arity rfl
    | enableShim => exact admits_enableShim.2 shimmed
    | compile => exact absurd rfl other
  have handles : Handles c s r.frame := by
    cases r with
    | addSource path => exact succeeds s.options
    | addSymbol | addReference | enableShim => trivial
    | compile => exact absurd rfl other
  obtain ⟨answer, performed, -, unspoken⟩ := exists_answer admits handles
  rw [performed, unspoken]
  cases r with
  | compile => exact absurd rfl other
  | addSymbol | addSource | addReference | enableShim => exact nofun

/-- Replaying the frames of requests leaves what the requests leave, if it gets through. -/
theorem state_replay_frames {answers : List CompileResult}
    (replayed : (replay c (rs.map Request.frame) s).result = .ok answers) :
    (replay c (rs.map Request.frame) s).state = (requestAll c rs s).state := by
  induction rs generalizing s answers with
  | nil => rfl
  | cons r rs ih =>
      cases performed : (perform c r.frame s).result with
      | error e =>
          rw [List.map_cons, replay, Act.result_bind, performed] at replayed
          cases replayed
      | ok answer =>
          rw [List.map_cons, result_replay_cons performed] at replayed
          obtain ⟨rest, replayed, -⟩ := exists_of_map_eq_ok replayed
          rw [List.map_cons, state_replay_cons performed, ih replayed, state_perform_frame,
            (requestAll_cons r rs s).1]

/-- Replaying the frames of requests that succeed is making the requests. -/
theorem replay_frames (shimmed : s.shim ≠ none) (succeed : ∀ r ∈ rs, r.Succeeds c) :
    (replay c (rs.map Request.frame) s).result = .ok [] ∧
      (replay c (rs.map Request.frame) s).state = (requestAll c rs s).state := by
  have replayed : (replay c (rs.map Request.frame) s).result = .ok [] := by
    induction rs generalizing s with
    | nil => rfl
    | cons r rs ih =>
        obtain ⟨succeeds, succeed⟩ := List.forall_mem_cons.1 succeed
        have performed := result_perform_frame shimmed succeeds
        have shimmed' : (perform c r.frame s).state.shim ≠ none := by
          rw [perform_shim]
          exact shimmed
        rw [List.map_cons, result_replay_cons performed, ih shimmed' succeed]
        rfl
  exact ⟨replayed, state_replay_frames replayed⟩

/-! ## Sources in a row -/

theorem sourcesBehind_eq_nil (before : List Request) (noSource : ∀ r ∈ rs, r.source? = none) :
    sourcesBehind before rs = [] := by
  induction rs generalizing before with
  | nil => rfl
  | cons r rs ih =>
      obtain ⟨first, others⟩ := List.forall_mem_cons.1 noSource
      rw [sourcesBehind, first, ih _ others]
      rfl

theorem symbolsIn_append (noSymbol : ∀ r ∈ rs, r.symbol? = none) (before : List Request) :
    symbolsIn (before ++ rs) = symbolsIn before := by
  have nothing : rs.filterMap Request.symbol? = [] := List.filterMap_eq_nil_iff.2 noSymbol
  rw [symbolsIn, List.filterMap_append, nothing, List.append_nil, symbolsIn]

/-- Sources that are added in a row are parsed with the same symbols. -/
theorem units_of_sources (c : Compiler) (version : Option LanguageVersion) (paths : List String)
    (before : List Request) :
    ((sourcesBehind before (paths.map .addSource)).filterMap fun (before, path) =>
        (c.parse path ⟨version, symbolsIn before⟩ ()).result.toOption.map (before, ·)).map
          Prod.snd =
      paths.filterMap fun path =>
        (c.parse path ⟨version, symbolsIn before⟩ ()).result.toOption := by
  induction paths generalizing before with
  | nil => rfl
  | cons path paths ih =>
      have same : symbolsIn (before ++ [.addSource path]) = symbolsIn before :=
        symbolsIn_append (by simp [Request.symbol?]) before
      have rest := ih (before ++ [.addSource path])
      rw [same] at rest
      rw [List.map_cons, sourcesBehind, Request.source?, Option.map_some, Option.toList_some,
        List.singleton_append, List.filterMap_cons, List.filterMap_cons]
      dsimp only
      cases (c.parse path ⟨version, symbolsIn before⟩ ()).result with
      | error e => exact rest
      | ok unit => exact congrArg (unit :: ·) rest

end Session

namespace Build

open PluginBuild.Supervisor (quietFiles quietPath)

variable {b : Build} {files : FileSystem} {frames : List Frame}

/-! ## Plans -/

/-- What is found for a build: the sources of two places and the archives of four. -/
structure Finds where
  modSources : List Path
  pluginSources : List Path
  coreArchives : List Path
  pluginArchives : List Path
  modArchives : List Path
  managedArchives : List Path

namespace Finds

def sources (f : Finds) : List Path := f.modSources ++ f.pluginSources

def archives (f : Finds) : List Path :=
  f.coreArchives ++ f.pluginArchives ++ f.modArchives ++ f.managedArchives

/-- Whether this is what is found for a build. -/
structure Are (b : Build) (files : FileSystem) (f : Finds) : Prop where
  modSources : (Discovery.findFiles files Discovery.sources b.app.mods ()).result =
    .ok f.modSources
  pluginSources : (Discovery.findFiles files Discovery.sources b.install.plugins ()).result =
    .ok f.pluginSources
  coreArchives : (Discovery.findFiles files Discovery.references b.install.core ()).result =
    .ok f.coreArchives
  pluginArchives : (Discovery.findFiles files Discovery.references b.install.plugins ()).result =
    .ok f.pluginArchives
  modArchives : (Discovery.findFiles files Discovery.references b.app.mods ()).result =
    .ok f.modArchives
  managedArchives : (Discovery.findFiles files Discovery.references b.app.managed ()).result =
    .ok f.managedArchives

end Finds

/-- The requests that a plan opens with: the symbols of the host, and what its runtime asks
for. -/
def openings (host : Host) (symbols : List String) : List Session.Request :=
  symbols.map .addSymbol ++
    if host.isMicro then [.enableShim, .addSymbol Host.microSymbol] else []

/-- The requests of a plan. -/
def requests (host : Host) (symbols : List String) (finds : Finds) : List Session.Request :=
  openings host symbols ++ finds.sources.map (fun path => .addSource path.text) ++
    finds.archives.map fun path => .addReference path.text

theorem findIn_cons_eq_ok {root : Path} {roots : List Path} {pattern : Pattern}
    {found : List Path} : (Discovery.findIn files pattern (root :: roots) ()).result = .ok found ↔
      ∃ here others, (Discovery.findFiles files pattern root ()).result = .ok here ∧
        (Discovery.findIn files pattern roots ()).result = .ok others ∧ found = here ++ others := by
  constructor
  · intro both
    obtain ⟨here, first, both⟩ := Act.result_bind_eq_ok.1 both
    obtain ⟨others, rest, both⟩ := Act.result_bind_eq_ok.1 both
    cases both
    exact ⟨here, others, first, rest, rfl⟩
  · rintro ⟨here, others, first, rest, rfl⟩
    exact findIn_cons first rest

theorem findIn_two {first second : Path} {pattern : Pattern} {found : List Path} :
    (Discovery.findIn files pattern [first, second] ()).result = .ok found ↔
      ∃ here there, (Discovery.findFiles files pattern first ()).result = .ok here ∧
        (Discovery.findFiles files pattern second ()).result = .ok there ∧
        found = here ++ there := by
  constructor
  · intro both
    obtain ⟨here, _, inFirst, rest, rfl⟩ := findIn_cons_eq_ok.1 both
    obtain ⟨there, _, inSecond, ⟨⟩, rfl⟩ := findIn_cons_eq_ok.1 rest
    exact ⟨here, there, inFirst, inSecond, by rw [List.append_nil]⟩
  · rintro ⟨here, there, inFirst, inSecond, rfl⟩
    refine findIn_cons inFirst ?_
    rw [← List.append_nil there]
    exact findIn_cons inSecond rfl

/-- The sources and the archives are what is found in the places for them. -/
theorem found_iff {sources references : List Path} :
    ((Discovery.findSources files b.install b.app ()).result = .ok sources ∧
        (Discovery.findReferences files b.install b.app ()).result = .ok references) ↔
      ∃ finds : Finds, finds.Are b files ∧ sources = finds.sources ∧
        references = finds.archives := by
  constructor
  · rintro ⟨found, referred⟩
    obtain ⟨mods, plugins, inMods, inPlugins, rfl⟩ := findIn_two.1 found
    obtain ⟨core, _, inCore, behindCore, rfl⟩ := findIn_cons_eq_ok.1 referred
    obtain ⟨pluginArchives, _, ofPlugins, others, rfl⟩ := findIn_cons_eq_ok.1 behindCore
    obtain ⟨modArchives, managed, ofMods, inManaged, rfl⟩ := findIn_two.1 others
    refine ⟨⟨mods, plugins, core, pluginArchives, modArchives, managed⟩,
      ⟨inMods, inPlugins, inCore, ofPlugins, ofMods, inManaged⟩, rfl, ?_⟩
    simp only [Finds.archives, List.append_assoc]
  · rintro ⟨finds, are, rfl, rfl⟩
    have ofOthers := findIn_two.2 ⟨_, _, are.modArchives, are.managedArchives, rfl⟩
    have referred := findIn_cons are.coreArchives (findIn_cons are.pluginArchives ofOthers)
    refine ⟨findIn_two.2 ⟨_, _, are.modSources, are.pluginSources, rfl⟩, ?_⟩
    simp only [Finds.archives, List.append_assoc]
    exact referred

theorem frames_requests (host : Host) (symbols : List String) (finds : Finds) :
    (requests host symbols finds).map Session.Request.frame =
      symbolFrames symbols ++ runtimeFrames host
        ++ finds.sources.map (fun path => ⟨.addSource, [path.text]⟩)
        ++ finds.archives.map fun path => ⟨.addReference, [path.text]⟩ := by
  unfold requests openings runtimeFrames symbolFrames
  split <;> simp [Session.Request.frame, Function.comp_def]

/-- A plan is made exactly where the symbols of the host are known and each place is gone
through, and then it makes its requests. -/
theorem plan_eq_ok_iff : (b.plan files ()).result = .ok frames ↔
    ∃ symbols finds, b.host.symbols = .ok symbols ∧ Finds.Are b files finds ∧
      frames = (requests b.host symbols finds).map Session.Request.frame := by
  constructor
  · intro planned
    simp only [plan, Act.result_bind_eq_ok, Act.result_pure, Except.ok.injEq] at planned
    obtain ⟨symbols, known, sources, found, references, referred, rfl⟩ := planned
    rw [Act.result_mapError, mapError_eq_ok_iff] at found referred
    rw [Act.result_ofExcept, mapError_eq_ok_iff] at known
    obtain ⟨finds, are, rfl, rfl⟩ := found_iff.1 ⟨found, referred⟩
    exact ⟨symbols, finds, known, are, (frames_requests b.host symbols finds).symm⟩
  · rintro ⟨symbols, finds, known, are, rfl⟩
    obtain ⟨found, referred⟩ := found_iff.2 ⟨finds, are, rfl, rfl⟩
    rw [plan_of_found known found referred, frames_requests]

theorem exists_symbols_iff {host : Host} :
    (∃ symbols, host.symbols = .ok symbols) ↔ ∃ v, Version.parse host.version = .ok v := by
  constructor
  · rintro ⟨symbols, known⟩
    obtain ⟨v, parsed, -⟩ := exists_of_bind_eq_ok known
    exact ⟨v, parsed⟩
  · rintro ⟨v, parsed⟩
    rw [Host.symbols, parsed]
    exact ⟨_, rfl⟩

/-! ## What a plan leaves -/

section Requests

variable {c : Compiler} {host : Host} {symbols : List String} {finds : Finds}

theorem of_mem_openings {r : Session.Request} (h : r ∈ openings host symbols) :
    r = .enableShim ∨ ∃ symbol, r = .addSymbol symbol := by
  rcases List.mem_append.1 h with ofHost | ofRuntime
  · obtain ⟨symbol, -, rfl⟩ := List.mem_map.1 ofHost
    exact .inr ⟨symbol, rfl⟩
  · split at ofRuntime
    · simp only [List.mem_cons, List.not_mem_nil, or_false] at ofRuntime
      rcases ofRuntime with rfl | rfl
      · exact .inl rfl
      · exact .inr ⟨_, rfl⟩
    · cases ofRuntime

theorem symbolsIn_requests (host : Host) (symbols : List String) (finds : Finds) :
    Session.symbolsIn (requests host symbols finds) =
      Session.symbolsIn (openings host symbols) := by
  rw [requests, Session.symbolsIn_append, Session.symbolsIn_append]
  · exact List.forall_mem_map.2 fun _ _ => rfl
  · exact List.forall_mem_map.2 fun _ _ => rfl

/-- The units of a plan are what its sources are parsed to, with all symbols of the plan. -/
theorem units_of_requests (c : Compiler) (host : Host) (symbols : List String) (finds : Finds)
    (version : Option LanguageVersion) :
    (Session.parsedIn c version (requests host symbols finds)).map Prod.snd =
      finds.sources.filterMap fun path => (c.parse path.text
        ⟨version, Session.symbolsIn (requests host symbols finds)⟩ ()).result.toOption := by
  have noSource : ∀ r ∈ openings host symbols, r.source? = none := by
    intro r hr
    rcases of_mem_openings hr with rfl | ⟨symbol, rfl⟩ <;> rfl
  have noSource' : ∀ r ∈ finds.archives.map (fun path => Session.Request.addReference path.text),
      r.source? = none := List.forall_mem_map.2 fun _ _ => rfl
  have parsed := Session.units_of_sources c version (finds.sources.map Path.text)
    (openings host symbols)
  rw [List.map_map, List.filterMap_map] at parsed
  rw [symbolsIn_requests, Session.parsedIn, requests, Session.sourcesBehind_append,
    Session.sourcesBehind_append, Session.sourcesBehind_eq_nil _ noSource,
    Session.sourcesBehind_eq_nil _ noSource', List.nil_append, List.append_nil, List.nil_append]
  exact parsed

/-- The sources of a plan are parsed with all symbols of the plan. -/
theorem parsed_of_requests (host : Host) (symbols : List String)
    (version : Option LanguageVersion)
    (parses : ∀ path ∈ finds.sources, ∀ options,
      ∃ unit, (c.parse path.text options ()).result = .ok unit) :
    List.Forall₂ (fun path unit => (c.parse path.text
        ⟨version, Session.symbolsIn (requests host symbols finds)⟩ ()).result = .ok unit)
      finds.sources ((Session.parsedIn c version (requests host symbols finds)).map Prod.snd) := by
  rw [units_of_requests]
  exact forall₂_filterMap fun path among => parses path among _

/-- The references of a plan are the archive for the small runtime, where it is asked for, and
the archives that were found. -/
theorem referencesIn_requests (shim : Path) :
    Session.referencesIn (some shim) (requests host symbols finds) =
      ((if host.isMicro then [shim.text] else []) ++ finds.archives.map Path.text).eraseDups := by
  have ofSymbols : (symbols.map Session.Request.addSymbol).filterMap
      (Session.Request.reference? (some shim)) = [] :=
    List.filterMap_eq_nil_iff.2 (List.forall_mem_map.2 fun _ _ => rfl)
  have ofSources : (finds.sources.map fun path => Session.Request.addSource path.text).filterMap
      (Session.Request.reference? (some shim)) = [] :=
    List.filterMap_eq_nil_iff.2 (List.forall_mem_map.2 fun _ _ => rfl)
  have ofArchives : (finds.archives.map fun path =>
      Session.Request.addReference path.text).filterMap (Session.Request.reference? (some shim)) =
        finds.archives.map Path.text := by
    rw [List.filterMap_map]
    show finds.archives.filterMap (some ∘ Path.text) = _
    rw [List.filterMap_eq_map]
  rw [Session.referencesIn, requests, openings, List.filterMap_append, List.filterMap_append,
    List.filterMap_append, ofSymbols, ofSources, ofArchives, List.nil_append, List.append_nil]
  split <;> rfl

theorem succeeds_of_requests
    (parses : ∀ path ∈ finds.sources, ∀ options,
      ∃ unit, (c.parse path.text options ()).result = .ok unit) :
    ∀ r ∈ requests host symbols finds, r.Succeeds c := by
  intro r hr
  rw [requests, List.mem_append, List.mem_append, List.mem_map, List.mem_map] at hr
  rcases hr with (opens | ⟨path, among, rfl⟩) | ⟨path, -, rfl⟩
  · rcases of_mem_openings opens with rfl | ⟨symbol, rfl⟩ <;> trivial
  · exact parses path among
  · trivial

end Requests

/-- What a plan leaves in a session that has an archive for the small runtime: the symbols of the
plan, a unit for each source that was parsed with all of them, and the references. -/
structure Captured (c : Compiler) (host : Host) (finds : Finds) (shim : Path)
    (version : Option LanguageVersion) (frames : List Frame) (s : Session) : Prop where
  symbols : s.symbols = symbolsOf frames
  units : List.Forall₂ (fun path unit =>
    (c.parse path.text ⟨version, s.symbols⟩ ()).result = .ok unit) finds.sources s.units
  labels : c.Labels → s.units.map (fun u => (u.path, u.symbols)) =
    finds.sources.map fun path => (path.text, s.symbols)
  references : s.references =
    ((if host.isMicro then [shim.text] else []) ++ finds.archives.map Path.text).eraseDups
  distinct : s.references.Nodup

theorem labels_of_parsed {c : Compiler} (labels : c.Labels) {options : ParseOptions}
    {paths : List Path} {units : List SourceUnit}
    (parsed : List.Forall₂ (fun path unit =>
      (c.parse path.text options ()).result = .ok unit) paths units) :
    units.map (fun u => (u.path, u.symbols)) =
      paths.map fun path => (path.text, options.symbols) := by
  induction parsed with
  | nil => rfl
  | cons first _ ih =>
      rw [List.map_cons, List.map_cons, ih, labels.path _ _ _ first, SourceUnit.symbols,
        labels.options _ _ _ first]

/-- A plan is made exactly for a version that is recognised, where each place can be gone
through.  Replaying it on a fresh session with an archive for the small runtime, where the
compiler parses the sources, has every source parsed with one set of symbols, all those of the
plan. -/
theorem plan_captured (b : Build) (files : FileSystem) :
    ((∃ frames, (b.plan files ()).result = .ok frames) ↔
        (∃ v, Version.parse b.host.version = .ok v) ∧ ∃ finds, Finds.Are b files finds) ∧
      ∀ frames, (b.plan files ()).result = .ok frames → ∃ finds, Finds.Are b files finds ∧
        ∀ (c : Compiler) (name : LibraryName) (shim : Path) (version : Option LanguageVersion),
          (∀ path ∈ finds.sources, ∀ options,
            ∃ unit, (c.parse path.text options ()).result = .ok unit) →
          (Session.replay c frames (.fresh name (some shim) version)).result = .ok [] ∧
            Captured c b.host finds shim version frames
              (Session.replay c frames (.fresh name (some shim) version)).state := by
  refine ⟨?_, ?_⟩
  · rw [← exists_symbols_iff]
    constructor
    · rintro ⟨frames, planned⟩
      obtain ⟨symbols, finds, known, are, -⟩ := plan_eq_ok_iff.1 planned
      exact ⟨⟨symbols, known⟩, finds, are⟩
    · rintro ⟨⟨symbols, known⟩, finds, are⟩
      exact ⟨_, plan_eq_ok_iff.2 ⟨symbols, finds, known, are, rfl⟩⟩
  · intro frames planned
    obtain ⟨symbols, finds, known, are, rfl⟩ := plan_eq_ok_iff.1 planned
    refine ⟨finds, are, ?_⟩
    intro c name shim version parses
    have shimmed : (Session.fresh name (some shim) version).shim ≠ none := Option.some_ne_none _
    obtain ⟨result, state⟩ := Session.replay_frames shimmed (succeeds_of_requests parses)
    have held := Session.reflects_requestAll c name (some shim) version
      (requests b.host symbols finds)
    rw [← state] at held
    have units := parsed_of_requests b.host symbols version parses
    rw [← held.units, ← held.symbols] at units
    refine ⟨result, ?_, units, fun labels => labels_of_parsed labels units, ?_, ?_⟩
    · rw [held.symbols, Session.symbolsOf_frames]
    · rw [held.references, referencesIn_requests]
    · rw [held.references]
      exact Session.nodup_eraseDups _

/-- Modifications in which the core libraries and the plugins lie, so what is below these is found
twice. -/
def microFiles : FileSystem where
  root := .dir [("Mods", .dir [("Core", .dir [("c.pyz", .file [] false)]),
    ("Plugins", .dir [("a.py", .file [] false), ("p.pyz", .file [] false)]),
    ("b.py", .file [] false), ("m.pyz", .file [] false)])]
  current := []

/-- A build for the small runtime there. -/
def microBuild : Build :=
  { quietBuild with
    host := { quietBuild.host with keyToken := some Host.microToken }
    install := ⟨⟨.single, ["Mods"]⟩⟩ }

/-- What is found for it. -/
def microFinds : Finds where
  modSources := [⟨.single, ["Mods", "Plugins", "a.py"]⟩, ⟨.single, ["Mods", "b.py"]⟩]
  pluginSources := [⟨.single, ["Mods", "Plugins", "a.py"]⟩]
  coreArchives := [⟨.single, ["Mods", "Core", "c.pyz"]⟩]
  pluginArchives := [⟨.single, ["Mods", "Plugins", "p.pyz"]⟩]
  modArchives := [⟨.single, ["Mods", "Core", "c.pyz"]⟩, ⟨.single, ["Mods", "Plugins", "p.pyz"]⟩,
    ⟨.single, ["Mods", "m.pyz"]⟩]
  managedArchives := []

theorem isSound_micro : microFiles.IsSound where
  root := by
    simp only [microFiles, Node.IsSound, Node.AreSound]
    decide +kernel
  current := ⟨_, rfl⟩

theorem findFiles_micro {pattern : Pattern} {names : List String} {found : List Path}
    (among : names ∈ [["Mods"], ["Mods", "Plugins"], ["Mods", "Core"], ["Managed"]])
    (listed : FileSystem.filesListed pattern ⟨.single, names⟩
      ((microFiles.root.at? names).getD (.dir [])) = found)
    (increasing : found.Pairwise fun q q' => q.components < q'.components) :
    (Discovery.findFiles microFiles pattern ⟨.single, names⟩ ()).result = .ok found := by
  have fine : ∀ names ∈ [["Mods"], ["Mods", "Plugins"], ["Mods", "Core"], ["Managed"]],
      ((∀ name ∈ names, Node.IsName name) ∧ microFiles.root.unlinked names = true ∧
        ¬FileSystem.maxPath < (Path.mk .single names).text.utf8ByteSize) ∧
      ∀ e ∈ ((microFiles.root.at? names).getD (.dir [])).listing, ¬e.2.IsLink ∧
        ¬FileSystem.maxPath < (Path.below ⟨.single, names⟩ e.1).text.utf8ByteSize := by
    decide +kernel
  obtain ⟨⟨areNames, unlinked, short⟩, below⟩ := fine names among
  have status : microFiles.status ⟨.single, names⟩ = .ok (microFiles.root.at? names) :=
    FileSystem.status_of_unlinked areNames unlinked short
  exact Discovery.search_unlinked isSound_micro status rfl below listed increasing

theorem are_micro : microFinds.Are microBuild microFiles where
  modSources := findFiles_micro (by decide) (by decide +kernel) (by decide +kernel)
  pluginSources := findFiles_micro (by decide) (by decide +kernel) (by decide +kernel)
  coreArchives := findFiles_micro (by decide) (by decide +kernel) (by decide +kernel)
  pluginArchives := findFiles_micro (by decide) (by decide +kernel) (by decide +kernel)
  modArchives := findFiles_micro (by decide) (by decide +kernel) (by decide +kernel)
  managedArchives := findFiles_micro (by decide) (by decide +kernel) .nil

/-- The compiler of its scripts, where nothing can be written. -/
def microScripts : Compiler := .scripts microFiles Compiler.refusing (-1)

theorem parses_microScripts {path : String} (writable : '\x00' ∉ path.toList)
    (options : ParseOptions) : ∃ unit, (microScripts.parse path options ()).result = .ok unit := by
  have accounts : ∃ unit, (microScripts.parse path options ()).result = .ok unit ∧
      unit.path = path ∧ unit.Accounts microFiles Compiler.refusing path options := by
    rw [microScripts, Compiler.parse_scripts]
    exact Compiler.exists_unit Compiler.parseReported_refusing writable
  exact accounts.imp fun _ h => h.1

/-- Its sources are parsed with all symbols, those of the modifications before those of the plugins
and one of them twice; the archives it refers to are named once each, behind the one for the
runtime. -/
theorem plan_captured_micro : ∃ frames s,
    (microBuild.plan microFiles ()).result = .ok frames ∧
      (Session.replay microScripts frames (.fresh none (some quietPath) none)).result = .ok [] ∧
      (Session.replay microScripts frames (.fresh none (some quietPath) none)).state = s ∧
      s.symbols = symbolsOf frames ∧
      s.units.map (fun u => (u.path, u.symbols)) = [("/Mods/Plugins/a.py", s.symbols),
        ("/Mods/b.py", s.symbols), ("/Mods/Plugins/a.py", s.symbols)] ∧
      s.references = ["/scriptc.py", "/Mods/Core/c.pyz", "/Mods/Plugins/p.pyz", "/Mods/m.pyz"] := by
  have accepted : Version.parse microBuild.host.version = .ok ⟨5, 3, 0, 0⟩ := rfl
  obtain ⟨found, referred⟩ := (found_iff (b := microBuild)).2 ⟨_, are_micro, rfl, rfl⟩
  obtain ⟨returns, captured⟩ := plan_captured microBuild microFiles
  obtain ⟨frames, planned⟩ := returns.2 ⟨⟨_, accepted⟩, _, are_micro⟩
  obtain ⟨finds, are, captured⟩ := captured frames planned
  obtain ⟨found', referred'⟩ := (found_iff (b := microBuild)).2 ⟨finds, are, rfl, rfl⟩
  have sources : finds.sources = microFinds.sources := Except.ok.inj (found'.symm.trans found)
  have archives : finds.archives = microFinds.archives :=
    Except.ok.inj (referred'.symm.trans referred)
  have sourceTexts : microFinds.sources.map Path.text =
      ["/Mods/Plugins/a.py", "/Mods/b.py", "/Mods/Plugins/a.py"] := by decide +kernel
  have archiveTexts : microFinds.archives.map Path.text = ["/Mods/Core/c.pyz",
      "/Mods/Plugins/p.pyz", "/Mods/Core/c.pyz", "/Mods/Plugins/p.pyz", "/Mods/m.pyz"] := by
    decide +kernel
  have shimText : quietPath.text = "/scriptc.py" := by decide +kernel
  have micro : microBuild.host.isMicro = true := by decide
  have parses : ∀ path ∈ finds.sources, ∀ options, ∃ unit,
      (microScripts.parse path.text options ()).result = .ok unit := by
    have writable : ∀ path ∈ microFinds.sources, '\x00' ∉ path.text.toList := by decide +kernel
    rw [sources]
    exact fun path among => parses_microScripts (writable path among)
  obtain ⟨replayed, holds⟩ := captured microScripts none quietPath none parses
  refine ⟨frames, _, planned, replayed, rfl, holds.symbols, ?_, ?_⟩
  · have paired : ∀ (symbols : SymbolSet) (paths : List Path),
        paths.map (fun path => (path.text, symbols)) =
          (paths.map Path.text).map fun text => (text, symbols) := by simp
    rw [holds.labels (Compiler.labels_scripts ..), sources, paired, sourceTexts]
    rfl
  · rw [holds.references, archives, archiveTexts, micro, if_pos rfl, shimText]
    decide

end Build

end PluginBuild
