/-
# Proofs.Build.Sources -- the sources that a plan names twice

The two directories of sources are searched one after the other.  Where neither lies below the
other (`FileSystem.Encloses`) no file is reached from both, and a plan names every source once.
Where one does, all that is reached from the inner one is named twice, and nothing else is
(`Build.count_sourcesIn`).  A source that is named twice is parsed twice, and the second unit
finds its own module name taken by its own file, unless another file took the name before
(`Compiler.selfClash_mem_iff`, `planned_sources`).
-/
import PluginBuild.Proofs.Build.Plan
import PluginBuild.Proofs.Host.Discovery
import PluginBuild.Proofs.Library.Order

namespace PluginBuild

set_option autoImplicit false

open PluginBuild.Wire
open PluginBuild.Supervisor (quietPath)

/-- The source that a frame adds. -/
def Wire.Frame.source? : Frame → Option String
  | ⟨.addSource, [path]⟩ => some path
  | _ => none

/-- The sources that frames add. -/
def sourcesIn (frames : List Frame) : List String := frames.filterMap Frame.source?

/-! ## Directories below one another -/

namespace FileSystem

variable {fs : FileSystem} {pattern : Pattern} {outer inner p q : Path}

/-- Whether a directory lies below another one, along real directories. -/
structure Encloses (fs : FileSystem) (outer inner : Path) : Prop where
  isOuter : fs.isDirectory outer = .ok true
  isInner : fs.isDirectory inner = .ok true
  leads : ∃ names entries, names ≠ [] ∧ (fs.nodeAt outer).at? names = some (.dir entries) ∧
    fs.absolute inner = fs.absolute (outer.below names)

theorem Reaches.isAbsolute (reaches : fs.Reaches pattern p q) : q.isAbsolute = true := by
  obtain ⟨front, name, node, -, -, -, rfl⟩ := reaches
  exact isAbsolute_absolute _

theorem Reaches.isNormal (sound : fs.IsSound) (normal : p.IsNormal)
    (reaches : fs.Reaches pattern p q) : q.IsNormal := by
  obtain ⟨front, name, node, leads, -, -, rfl⟩ := reaches
  obtain ⟨-, areNames⟩ := (sound.nodeAt p).at? leads
  refine sound.isNormal_absolute fun part among => ?_
  rcases List.mem_append.1 among with inPath | inNames
  · exact normal part inPath
  · exact (areNames part inNames).toIsPart

/-- What is reached from an inner directory is reached from the outer one. -/
theorem Encloses.reaches (encloses : fs.Encloses outer inner) (sound : fs.IsSound)
    {follows : Bool} (searchable : fs.Searchable follows pattern outer)
    (reaches : fs.Reaches pattern inner q) : fs.Reaches pattern outer q := by
  obtain ⟨names, entries, nonempty, leads, same⟩ := encloses.leads
  obtain ⟨front, name, node, leads', named, file, rfl⟩ := reaches
  obtain ⟨_, status, start⟩ := nodeAt_of_isDirectory encloses.isOuter
  obtain ⟨_, status', start'⟩ := nodeAt_of_isDirectory encloses.isInner
  -- the outer search reads the inner directory, so the path that it has there is not too long
  obtain ⟨found, asked⟩ := searchable _
    (.inr ⟨encloses.isOuter, names, _, nonempty, leads, .inr trivial, rfl⟩)
  have there : found = some (.dir entries) := by
    have real : ∀ target, Node.dir entries ≠ .link target := nofun
    have below := sound.status_below status (start ▸ leads) real
    rw [asked] at below
    split at below <;> cases below
    rfl
  have innerNode : fs.nodeAt inner = .dir entries := by
    have same := sound.status_congr same status' asked
    rw [there] at same
    rw [start', ← Option.some.inj same]
  have through : (fs.nodeAt outer).at? (names ++ (front ++ [name])) = some node := by
    rw [Node.at?_append, leads, Option.bind_some, ← innerNode, leads']
  have same' : fs.absolute (inner.below (front ++ [name])) =
      fs.absolute (outer.below (names ++ (front ++ [name]))) := by
    rw [absolute_below, same, ← absolute_below, ← Path.below_append]
  rw [Reaches]
  refine ⟨names ++ front, name, node, ?_, named, file.imp_right ?_, ?_⟩
  · rwa [List.append_assoc]
  · rintro ⟨⟨target, rfl⟩, toFile⟩
    obtain ⟨bytes, executable, status⟩ := isFile_eq_true.1 toFile
    have asks : pattern.Asks follows (outer.below (names ++ (front ++ [name]))) (.link target) := by
      rw [← List.append_assoc]
      exact .inl (by rwa [Path.name_below])
    obtain ⟨found, asked⟩ := searchable _
      (.inr ⟨encloses.isOuter, _, _, by simp, through, asks, rfl⟩)
    refine ⟨⟨target, rfl⟩, isFile_eq_true.2 ⟨bytes, executable, ?_⟩⟩
    rw [List.append_assoc, asked, ← sound.status_congr same' status asked]
  · rw [same', List.append_assoc]

/-- A directory whose path goes on to another one encloses it, if something is reached there. -/
theorem encloses_of_below (isOuter : fs.isDirectory outer = .ok true)
    (isInner : fs.isDirectory inner = .ok true) (apart : fs.absolute outer ≠ fs.absolute inner)
    {between names : List String} {node : Node}
    (same : fs.absolute inner = (fs.absolute outer).below between) (nonempty : names ≠ [])
    (leads : (fs.nodeAt outer).at? (between ++ names) = some node) : fs.Encloses outer inner := by
  refine ⟨isOuter, isInner, ?_⟩
  obtain ⟨name, rest, rfl⟩ := List.exists_cons_of_ne_nil nonempty
  rw [Node.at?_append, Option.bind_eq_some_iff] at leads
  obtain ⟨m, leads, leads'⟩ := leads
  obtain ⟨entries, -, rfl, -, -⟩ := Node.at?_cons_eq_some.1 leads'
  refine ⟨between, entries, ?_, leads, by rw [same, absolute_below]⟩
  rintro rfl
  rw [Path.below, List.append_nil] at same
  exact apart same.symm

/-- Where something is reached from two directories, one of them lies below the other. -/
theorem encloses_of_reaches (isOuter : fs.isDirectory outer = .ok true)
    (isInner : fs.isDirectory inner = .ok true) (apart : fs.absolute outer ≠ fs.absolute inner)
    (fromOuter : fs.Reaches pattern outer q) (fromInner : fs.Reaches pattern inner q) :
    fs.Encloses outer inner ∨ fs.Encloses inner outer := by
  obtain ⟨front, name, node, leads, -, -, rfl⟩ := fromOuter
  obtain ⟨front', name', node', leads', -, -, same⟩ := fromInner
  rw [absolute_below, absolute_below, Path.below, Path.below, Path.mk.injEq] at same
  obtain ⟨roots, parts⟩ := same
  rcases List.append_eq_append_iff.1 parts with ⟨between, longer, rest⟩ | ⟨between, longer, rest⟩
  · refine .inl (encloses_of_below isOuter isInner apart ?_ (by simp) (rest ▸ leads))
    rw [Path.below, roots, ← longer]
  · refine .inr (encloses_of_below isInner isOuter apart.symm ?_ (by simp) (rest ▸ leads'))
    rw [Path.below, ← roots, ← longer]

/-- Whether a text is the path of something that is reached from a directory that lies below
another one. -/
def Nests (fs : FileSystem) (pattern : Pattern) (outer inner : Path) (t : String) : Prop :=
  fs.Encloses outer inner ∧ ∃ q, fs.Reaches pattern inner q ∧ q.text = t

end FileSystem

/-! ## What two searches find -/

namespace Discovery

variable {fs : FileSystem} {pattern : Pattern} {directory one other : Path}
  {found found' : List Path} {t : String}

theorem mem_map_text (sound : fs.IsSound)
    (searched : (findFiles fs pattern directory ()).result = .ok found) :
    t ∈ found.map Path.text ↔
      ∃ q, fs.isDirectory directory = .ok true ∧ fs.Reaches pattern directory q ∧ q.text = t := by
  rw [List.mem_map]
  simp only [(of_search sound searched).2, and_assoc]

/-- What is found in a directory has a text of its own. -/
theorem nodup_map_text (sound : fs.IsSound) (normal : directory.IsNormal)
    (searched : (findFiles fs pattern directory ()).result = .ok found) :
    (found.map Path.text).Nodup := by
  obtain ⟨increasing, members⟩ := of_search sound searched
  have isNormal : ∀ q ∈ found, q.IsNormal :=
    fun q among => ((members q).1 among).2.isNormal sound normal
  refine List.Nodup.map_on (fun q hq q' hq' same => ?_) ?_
  · exact (Path.text_inj (isNormal q hq) (isNormal q' hq')).1 same
  · refine increasing.imp fun {q q'} before => ?_
    rintro rfl
    exact List.lt_irrefl _ before

/-- What is found in two directories is reached from one of them that lies below the other. -/
theorem mem_both_iff (sound : fs.IsSound) (normal : one.IsNormal) (normal' : other.IsNormal)
    (apart : fs.absolute one ≠ fs.absolute other)
    (searched : (findFiles fs pattern one ()).result = .ok found)
    (searched' : (findFiles fs pattern other ()).result = .ok found') :
    t ∈ found.map Path.text ∧ t ∈ found'.map Path.text ↔
      fs.Nests pattern one other t ∨ fs.Nests pattern other one t := by
  rw [mem_map_text sound searched, mem_map_text sound searched']
  constructor
  · rintro ⟨⟨q, isOne, reaches, rfl⟩, q', isOther, reaches', same⟩
    obtain rfl : q' = q := (Path.text_inj (reaches'.isNormal sound normal')
      (reaches.isNormal sound normal)).1 same
    refine (FileSystem.encloses_of_reaches isOne isOther apart reaches reaches').imp ?_ ?_
    · exact fun encloses => ⟨encloses, q', reaches', rfl⟩
    · exact fun encloses => ⟨encloses, q', reaches, rfl⟩
  · rintro (⟨encloses, q, reaches, rfl⟩ | ⟨encloses, q, reaches, rfl⟩)
    · have searchable := (exists_search_iff sound true pattern _).1 ⟨_, searched⟩
      exact ⟨⟨q, encloses.isOuter, encloses.reaches sound searchable reaches, rfl⟩,
        q, encloses.isInner, reaches, rfl⟩
    · have searchable := (exists_search_iff sound true pattern _).1 ⟨_, searched'⟩
      exact ⟨⟨q, encloses.isInner, reaches, rfl⟩,
        q, encloses.isOuter, encloses.reaches sound searchable reaches, rfl⟩

end Discovery

/-! ## A source that is added twice -/

namespace Compiler

variable {encode : Payload → List UInt8} {files : FileSystem} {front : FrontEnd}
  {optimize : Int} {name : LibraryName} {references : List String} {options : ParseOptions}
  {paths : List String} {path holder : String} {u : SourceUnit}

/-- What is said of a source whose module name is taken by its own file. -/
def selfClash (path : String) : Diagnostic :=
  .error Code.duplicateModule
    (some ("Module '" ++ (Path.ofString path).stem ++ "' is already defined by '" ++ path ++ "'"))
    (.ofFile path)

/-- The units that sources are parsed to with one set of options. -/
def unitsOf (files : FileSystem) (front : FrontEnd) (options : ParseOptions)
    (paths : List String) : List SourceUnit :=
  paths.filterMap fun path => (parseSource files front path options ()).result.toOption

theorem mem_unitsOf : u ∈ unitsOf files front options paths ↔
    u.path ∈ paths ∧ (parseSource files front u.path options ()).result = .ok u := by
  simp only [unitsOf, List.mem_filterMap, toOption_eq_some_iff]
  constructor
  · rintro ⟨path, among, parsed⟩
    obtain rfl : u.path = path := (of_parseSource parsed).1
    exact ⟨among, parsed⟩
  · rintro ⟨among, parsed⟩
    exact ⟨u.path, among, parsed⟩

theorem sublist_map_path (files : FileSystem) (front : FrontEnd) (options : ParseOptions)
    (paths : List String) :
    ((unitsOf files front options paths).map (·.path)).Sublist paths := by
  induction paths with
  | nil => exact .slnil
  | cons path paths ih =>
      rw [unitsOf, List.filterMap_cons]
      cases parsed : (parseSource files front path options ()).result with
      | error e => exact ih.cons path
      | ok u =>
          obtain rfl : u.path = path := (of_parseSource parsed).1
          exact ih.cons_cons u.path

theorem duplicateOf_eq_selfClash (named : u.moduleName = (Path.ofString u.path).stem) :
    duplicateOf u holder = selfClash path ↔ u.path = path ∧ holder = path := by
  constructor
  · intro same
    have place : some (Location.ofFile u.path) = some (.ofFile path) :=
      congrArg Diagnostic.location same
    obtain rfl : u.path = path := congrArg Location.file (Option.some.inj place)
    have message := Option.some.inj (congrArg Diagnostic.message same)
    rw [named] at message
    exact ⟨rfl, by simpa [String.append_assoc] using message⟩
  · rintro ⟨rfl, rfl⟩
    rw [duplicateOf, selfClash, named]

theorem exists_of_holder? {units : List SourceUnit} {name : String}
    (taken : holder? units name = some holder) :
    ∃ u ∈ units, u.path = holder ∧ u.tree.isSome = true ∧ u.moduleName = name := by
  obtain ⟨u, found, rfl⟩ := Option.map_eq_some_iff.1 taken
  have fits := List.find?_some found
  rw [Bool.and_eq_true, beq_iff_eq] at fits
  exact ⟨u, List.mem_of_find?_eq_some found, rfl, fits⟩

theorem exists_holder {units : List SourceUnit} (among : u ∈ units)
    (hasTree : u.tree.isSome = true) : ∃ holder, holder? units u.moduleName = some holder := by
  have found : (units.find? fun v => v.tree.isSome && v.moduleName == u.moduleName).isSome := by
    rw [List.find?_isSome]
    exact ⟨u, among, by rw [hasTree, BEq.rfl]; rfl⟩
  obtain ⟨v, found⟩ := Option.isSome_iff_exists.1 found
  exact ⟨v.path, by rw [holder?, found]; rfl⟩

/-- A source is said to be taken by itself where emitting comes to a unit of it behind the one
that holds its name. -/
theorem selfClash_mem_emission {e : Emission}
    (emitted : (emitLibrary encode files front optimize name (unitsOf files front options paths)
      references ()).result = .ok e) :
    selfClash path ∈ e.diagnostics ↔ ∃ before u after,
      unitsOf files front options paths = before ++ u :: after ∧ u.path = path ∧
        u.tree.isSome = true ∧ holder? before (Path.ofString path).stem = some path := by
  have parsed : ∀ u ∈ unitsOf files front options paths,
      (parseSource files front u.path options ()).result = .ok u :=
    fun u among => (mem_unitsOf.1 among).2
  have sounds : SoundsLikeClash (selfClash path) := rfl
  rw [diagnostics_emitLibrary emitted, List.mem_append, mem_inTurn_iff]
  constructor
  · rintro (⟨before, u, after, units, said⟩ | ofReference)
    · have here := parsed u (units ▸ List.mem_append_right _ List.mem_cons_self)
      have named := (of_parseSource here).2.1
      rw [List.nil_append] at said
      rcases List.mem_append.1 said with ofUnit | clashes
      · exact absurd sounds
          (not_soundsLikeClash_of_unit ⟨_, _, _, _, here⟩ before _ ofUnit)
      · rw [Option.mem_toList, clash?] at clashes
        split at clashes
        · next hasTree =>
          obtain ⟨holder, taken, same⟩ := Option.map_eq_some_iff.1 clashes
          obtain ⟨rfl, rfl⟩ := (duplicateOf_eq_selfClash named).1 same
          exact ⟨before, u, after, units, rfl, hasTree, named ▸ taken⟩
        · cases clashes
    · obtain ⟨reference, -, complains⟩ := List.mem_filterMap.1 ofReference
      exact absurd sounds (not_soundsLikeClash_of_reference complains)
  · rintro ⟨before, u, after, units, rfl, hasTree, taken⟩
    have here := parsed u (units ▸ List.mem_append_right _ List.mem_cons_self)
    have named := (of_parseSource here).2.1
    refine .inl ⟨before, u, after, units, List.mem_append_right _ ?_⟩
    rw [List.nil_append, Option.mem_toList, clash?, if_pos hasTree, named, taken]
    exact congrArg some ((duplicateOf_eq_selfClash named).2 ⟨rfl, rfl⟩)

/-- A source is said to be taken by itself exactly if it is added twice and the first unit that
has its module name is of itself. -/
theorem selfClash_mem_iff {e : Emission}
    (emitted : (emitLibrary encode files front optimize name (unitsOf files front options paths)
      references ()).result = .ok e) :
    selfClash path ∈ e.diagnostics ↔ 2 ≤ paths.count path ∧
      holder? (unitsOf files front options paths) (Path.ofString path).stem = some path := by
  rw [selfClash_mem_emission emitted]
  constructor
  · rintro ⟨before, u, after, units, rfl, -, taken⟩
    refine ⟨?_, by rw [units, holder?_append, taken, Option.some_or]⟩
    obtain ⟨v, among, same, -, -⟩ := exists_of_holder? taken
    have twice : [u.path, u.path].Sublist paths := by
      refine .trans ?_ (sublist_map_path files front options paths)
      rw [units, List.map_append, List.cons_sublist_iff]
      refine ⟨_, _, rfl, same ▸ List.mem_map_of_mem among, ?_⟩
      exact List.singleton_sublist.2 List.mem_cons_self
    exact List.replicate_sublist_iff.1 twice
  · rintro ⟨twice, taken⟩
    obtain ⟨v, among, rfl, hasTree, named⟩ := exists_of_holder? taken
    have parsed := (mem_unitsOf.1 among).2
    have both : [v, v].Sublist (unitsOf files front options paths) := by
      have both : [v.path, v.path].Sublist paths := List.replicate_sublist_iff.2 twice
      have units := both.filterMap fun path =>
        (parseSource files front path options ()).result.toOption
      rwa [List.filterMap_cons, List.filterMap_cons, parsed] at units
    obtain ⟨front', rest, units, inFront, inRest⟩ := List.cons_sublist_iff.1 both
    obtain ⟨between, after, rfl⟩ := List.append_of_mem (List.singleton_sublist.1 inRest)
    obtain ⟨holder, known⟩ := exists_holder (List.mem_append_left between inFront) hasTree
    refine ⟨front' ++ between, v, after, by rw [units, List.append_assoc], rfl, hasTree, ?_⟩
    rw [units, ← List.append_assoc, holder?_append, ← named, known] at taken
    rw [← named, known, ← taken]
    rfl

end Compiler

/-! ## The sources of a plan -/

namespace Build

variable {b : Build} {files : FileSystem} {frames : List Frame} {host : Host}
  {symbols : List String} {finds : Finds} {t : String}

theorem sourcesIn_requests (host : Host) (symbols : List String) (finds : Finds) :
    sourcesIn ((requests host symbols finds).map Session.Request.frame) =
      finds.sources.map Path.text := by
  have ofOpenings : (openings host symbols).filterMap (Frame.source? ∘ Session.Request.frame) =
      [] := by
    refine List.filterMap_eq_nil_iff.2 fun r among => ?_
    rcases of_mem_openings among with rfl | ⟨symbol, rfl⟩ <;> rfl
  have ofArchives : (finds.archives.map fun path =>
      Session.Request.addReference path.text).filterMap
        (Frame.source? ∘ Session.Request.frame) = [] :=
    List.filterMap_eq_nil_iff.2 (List.forall_mem_map.2 fun _ _ => rfl)
  rw [sourcesIn, List.filterMap_map, requests, List.filterMap_append, List.filterMap_append,
    ofOpenings, ofArchives, List.nil_append, List.append_nil, List.filterMap_map]
  exact congrFun List.filterMap_eq_map _

/-- In two lists without repetition a text occurs at most twice, and twice if it is in both. -/
theorem count_append_le_two {l l' : List String} (distinct : l.Nodup) (distinct' : l'.Nodup)
    (t : String) : (l ++ l').count t ≤ 2 ∧ ((l ++ l').count t = 2 ↔ t ∈ l ∧ t ∈ l') := by
  rw [List.count_append, distinct.count, distinct'.count]
  by_cases here : t ∈ l <;> by_cases there : t ∈ l' <;> simp [here, there]

/-- The two directories of sources are not the same. -/
theorem absolute_mods_ne (b : Build) (files : FileSystem) :
    files.absolute b.app.mods ≠ files.absolute b.install.plugins := by
  have mods : (files.absolute b.app.mods).name = "Mods" := by
    rw [App.mods, show b.app.data.entry "Mods" = b.app.data.below ["Mods"] from rfl,
      FileSystem.absolute_below]
    exact Path.name_below _ [] "Mods"
  have plugins : (files.absolute b.install.plugins).name = "Plugins" := by
    rw [Install.plugins, show b.install.root.entry "Plugins" = b.install.root.below ["Plugins"]
      from rfl, FileSystem.absolute_below]
    exact Path.name_below _ [] "Plugins"
  intro same
  rw [same, plugins] at mods
  exact absurd mods (by decide)

/-- A plan names a source at most twice, and twice exactly if it is reached from one of the
directories of sources, which lies below the other. -/
theorem count_sourcesIn (sound : files.IsSound) (normalData : b.app.data.IsNormal)
    (normalRoot : b.install.root.IsNormal) (planned : (b.plan files ()).result = .ok frames)
    (t : String) : (sourcesIn frames).count t ≤ 2 ∧ ((sourcesIn frames).count t = 2 ↔
      files.Nests Discovery.sources b.app.mods b.install.plugins t ∨
        files.Nests Discovery.sources b.install.plugins b.app.mods t) := by
  obtain ⟨symbols, finds, -, are, rfl⟩ := plan_eq_ok_iff.1 planned
  have normalMods : b.app.mods.IsNormal := normalData.entry (by decide)
  have normalPlugins : b.install.plugins.IsNormal := normalRoot.entry (by decide)
  have mods := Discovery.nodup_map_text sound normalMods are.modSources
  have plugins := Discovery.nodup_map_text sound normalPlugins are.pluginSources
  rw [sourcesIn_requests, Finds.sources, List.map_append, ← Discovery.mem_both_iff sound normalMods
    normalPlugins (absolute_mods_ne b files) are.modSources are.pluginSources]
  exact count_append_le_two mods plugins t

/-- The units of a session that has replayed a plan are what the sources are parsed to, with one
set of options. -/
theorem units_of_replay (planned : (b.plan files ()).result = .ok frames) {front : FrontEnd}
    {optimize : Int} {name : LibraryName} {shim : Option Path} {version : Option LanguageVersion}
    {answers : List CompileResult} (replayed : (Session.replay (.scripts files front optimize)
      frames (.fresh name shim version)).result = .ok answers) :
    ∃ options, (Session.replay (.scripts files front optimize) frames
        (.fresh name shim version)).state.units =
      Compiler.unitsOf files front options (sourcesIn frames) := by
  obtain ⟨symbols, finds, -, -, rfl⟩ := plan_eq_ok_iff.1 planned
  refine ⟨⟨version, Session.symbolsIn (requests b.host symbols finds)⟩, ?_⟩
  rw [Session.state_replay_frames replayed, (Session.reflects_requestAll ..).units,
    units_of_requests, sourcesIn_requests, Compiler.unitsOf, List.filterMap_map]
  simp only [Function.comp_def, Compiler.parse_scripts]

/-- A plan names a source at most twice, and twice exactly if it is reached from one of the
directories of sources, which lies below the other.  A session that has replayed the plan says
that the module of a source is already defined by the source itself exactly if the plan names it
twice, unless another source has taken the name before. -/
theorem planned_sources (sound : files.IsSound) (normalData : b.app.data.IsNormal)
    (normalRoot : b.install.root.IsNormal) (planned : (b.plan files ()).result = .ok frames) :
    (∀ t, (sourcesIn frames).count t ≤ 2) ∧
      (∀ t, (sourcesIn frames).count t = 2 ↔
        files.Nests Discovery.sources b.app.mods b.install.plugins t ∨
          files.Nests Discovery.sources b.install.plugins b.app.mods t) ∧
      ∀ front optimize name shim version answers,
        let c := Compiler.scripts files front optimize
        let s := (Session.replay c frames (.fresh name shim version)).state
        (Session.replay c frames (.fresh name shim version)).result = .ok answers →
        ∀ e, (c.emit s.name s.units s.references ()).result = .ok e → ∀ t,
          Compiler.selfClash t ∈ e.diagnostics ↔ (sourcesIn frames).count t = 2 ∧
            Compiler.holder? s.units (Path.ofString t).stem = some t := by
  have counts := count_sourcesIn sound normalData normalRoot planned
  refine ⟨fun t => (counts t).1, fun t => (counts t).2, ?_⟩
  intro front optimize name shim version answers c s replayed e emitted t
  obtain ⟨options, units⟩ := units_of_replay planned replayed
  rw [show s.units = _ from units] at emitted ⊢
  have twice : 2 ≤ (sourcesIn frames).count t ↔ (sourcesIn frames).count t = 2 := by
    have := (counts t).1
    omega
  rw [← twice]
  exact Compiler.selfClash_mem_iff emitted

/-- A directory of modifications in which the plugins lie. -/
def nestedFiles : FileSystem where
  root := .dir [("Mods", .dir [("Plugins", .dir [("a.py", .file [] false)])])]
  current := []

/-- A build whose plugins lie in its modifications. -/
def nestedBuild : Build := { quietBuild with install := ⟨⟨.single, ["Mods"]⟩⟩ }

/-- Its source. -/
def nestedSource : Path := ⟨.single, ["Mods", "Plugins", "a.py"]⟩

theorem isSound_nested : nestedFiles.IsSound where
  root := by
    simp only [nestedFiles, Node.IsSound, Node.AreSound]
    decide +kernel
  current := ⟨_, rfl⟩

theorem status_nested (names : List String) (among : names ∈ [["Mods"], ["Mods", "Plugins"],
      ["Mods", "Plugins", "a.py"], ["Mods", "Core"], ["Managed"]]) :
    nestedFiles.status ⟨.single, names⟩ = .ok (nestedFiles.root.at? names) := by
  have fine : ∀ names ∈ [["Mods"], ["Mods", "Plugins"], ["Mods", "Plugins", "a.py"],
      ["Mods", "Core"], ["Managed"]], (∀ name ∈ names, Node.IsName name) ∧
        nestedFiles.root.unlinked names = true ∧
        ¬FileSystem.maxPath < (Path.mk .single names).text.utf8ByteSize := by decide +kernel
  obtain ⟨areNames, unlinked, short⟩ := fine names among
  exact FileSystem.status_of_unlinked areNames unlinked short

theorem findFiles_nested {pattern : Pattern} {names : List String} {found : List Path}
    (among : names ∈ [["Mods"], ["Mods", "Plugins"], ["Mods", "Core"], ["Managed"]])
    (listed : FileSystem.filesListed pattern ⟨.single, names⟩
      ((nestedFiles.root.at? names).getD (.dir [])) = found)
    (increasing : found.Pairwise fun q q' => q.components < q'.components) :
    (Discovery.findFiles nestedFiles pattern ⟨.single, names⟩ ()).result = .ok found := by
  have unlinked : ∀ names ∈ [["Mods"], ["Mods", "Plugins"], ["Mods", "Core"], ["Managed"]],
      ∀ e ∈ ((nestedFiles.root.at? names).getD (.dir [])).listing, ¬e.2.IsLink ∧
        ¬FileSystem.maxPath < (Path.below ⟨.single, names⟩ e.1).text.utf8ByteSize := by
    decide +kernel
  exact Discovery.search_unlinked isSound_nested (status_nested names (by simp at among ⊢; tauto))
    rfl (unlinked names among) listed increasing

/-- What is found for the build: its source twice. -/
def nestedFinds : Finds := ⟨[nestedSource], [nestedSource], [], [], [], []⟩

theorem are_nested : nestedFinds.Are nestedBuild nestedFiles where
  modSources := findFiles_nested (by decide) (by decide +kernel) (List.pairwise_singleton _ _)
  pluginSources := findFiles_nested (by decide) (by decide +kernel) (List.pairwise_singleton _ _)
  coreArchives := findFiles_nested (by decide) rfl .nil
  pluginArchives := findFiles_nested (by decide) (by decide +kernel) .nil
  modArchives := findFiles_nested (by decide) (by decide +kernel) .nil
  managedArchives := findFiles_nested (by decide) rfl .nil

/-- What it tells the helper. -/
def nestedPlan : List Frame :=
  (requests quietBuild.host ["UNITY_STANDALONE", "UNITY_STANDALONE_LINUX", "UNITY_5", "UNITY_5_3",
    "UNITY_5_3_OR_NEWER"] nestedFinds).map Session.Request.frame

theorem plan_nested : (nestedBuild.plan nestedFiles ()).result = .ok nestedPlan :=
  plan_eq_ok_iff.2 ⟨_, _, symbols_quiet, are_nested, rfl⟩

theorem sourcesIn_nested :
    sourcesIn nestedPlan = ["/Mods/Plugins/a.py", "/Mods/Plugins/a.py"] := by
  rw [nestedPlan, sourcesIn_requests]
  decide +kernel

/-- A source is named twice where the plugins lie in the modifications. -/
theorem planned_sources_twice : nestedFiles.IsSound ∧
    (nestedBuild.plan nestedFiles ()).result = .ok nestedPlan ∧ ¬(sourcesIn nestedPlan).Nodup := by
  refine ⟨isSound_nested, plan_nested, ?_⟩
  rw [sourcesIn_nested]
  decide

theorem parseSource_nested (options : ParseOptions) : ∃ unit,
    (Compiler.parseSource nestedFiles Compiler.accepting "/Mods/Plugins/a.py" options ()).result =
      .ok unit ∧ unit.tree.isSome = true ∧ unit.path = "/Mods/Plugins/a.py" ∧
        unit.moduleName = "a" := by
  have path : Path.ofString "/Mods/Plugins/a.py" = nestedSource := by decide
  have stem : nestedSource.stem = "a" := by decide
  have empty : nestedFiles.status (.ofString "/Mods/Plugins/a.py") =
      .ok (some (.file [] false)) := by
    rw [path]
    exact status_nested ["Mods", "Plugins", "a.py"] (by decide)
  rw [Compiler.parseSource_of_empty empty (by decide), path]
  exact ⟨_, rfl, rfl, rfl, stem⟩

/-- The compiler of its scripts. -/
def nestedScripts : Compiler := .scripts nestedFiles Compiler.accepting (-1)

/-- The session that has replayed its plan. -/
def nestedSession : Session :=
  (Session.replay nestedScripts nestedPlan (.fresh none (some quietPath) none)).state

theorem replay_nested : (Session.replay nestedScripts nestedPlan
    (.fresh none (some quietPath) none)).result = .ok [] ∧ nestedSession.references = [] := by
  have shimmed : (Session.fresh none (some quietPath) none).shim ≠ none := Option.some_ne_none _
  have text : nestedSource.text = "/Mods/Plugins/a.py" := by decide +kernel
  have parses : ∀ path ∈ nestedFinds.sources, ∀ options,
      ∃ unit, (nestedScripts.parse path.text options ()).result = .ok unit := by
    intro path among options
    obtain rfl : path = nestedSource := by simpa [nestedFinds, Finds.sources] using among
    obtain ⟨unit, parsed, -⟩ := parseSource_nested options
    exact ⟨unit, text ▸ parsed⟩
  obtain ⟨replayed, state⟩ := Session.replay_frames shimmed (succeeds_of_requests parses)
  refine ⟨replayed, ?_⟩
  rw [nestedSession, nestedPlan, state, (Session.reflects_requestAll ..).references,
    referencesIn_requests]
  decide +kernel

theorem units_nested : ∃ unit, nestedSession.units = [unit, unit] ∧ unit.tree.isSome = true ∧
    unit.path = "/Mods/Plugins/a.py" ∧ unit.moduleName = "a" := by
  obtain ⟨options, units⟩ := units_of_replay plan_nested replay_nested.1
  obtain ⟨unit, parsed, speaks⟩ := parseSource_nested options
  refine ⟨unit, ?_, speaks⟩
  rw [nestedSession, nestedScripts, units, sourcesIn_nested, Compiler.unitsOf]
  simp only [List.filterMap_cons, List.filterMap_nil, parsed, Except.toOption]

theorem holder?_nested :
    Compiler.holder? nestedSession.units "a" = some "/Mods/Plugins/a.py" := by
  obtain ⟨unit, both, hasTree, path, named⟩ := units_nested
  rw [both, Compiler.holder?]
  simp [hasTree, path, named]

theorem emit_nested : ∃ e, (nestedScripts.emit nestedSession.name nestedSession.units
    nestedSession.references ()).result = .ok e := by
  have reported : Compiler.accepting.CompileReported := fun _ _ _ _ => nofun
  obtain ⟨ds, ms, emits⟩ := Compiler.exists_emitUnits reported (-1) [] nestedSession.units
  rw [replay_nested.2]
  exact (Compiler.exists_emission emits (List.forall_mem_nil _)).imp fun _ h => h.1

/-- The session that replays the plan says that the module is already defined by its own
file. -/
theorem planned_sources_nested : ∃ e,
    (nestedScripts.emit nestedSession.name nestedSession.units nestedSession.references
      ()).result = .ok e ∧ Compiler.selfClash "/Mods/Plugins/a.py" ∈ e.diagnostics := by
  have normalData : nestedBuild.app.data.IsNormal := List.forall_mem_nil _
  have normalRoot : nestedBuild.install.root.IsNormal := List.forall_mem_singleton.2 (by decide)
  have clashes := (planned_sources isSound_nested normalData normalRoot plan_nested).2.2
  have twice : (sourcesIn nestedPlan).count "/Mods/Plugins/a.py" = 2 := by
    rw [sourcesIn_nested]
    decide
  have stem : (Path.ofString "/Mods/Plugins/a.py").stem = "a" := by decide
  obtain ⟨e, emitted⟩ := emit_nested
  refine ⟨e, emitted, (clashes _ _ _ _ _ _ replay_nested.1 e emitted _).2 ⟨twice, ?_⟩⟩
  exact stem ▸ holder?_nested

end Build

end PluginBuild
