/-
# Proofs.Library.Obstacle -- no source is lost on the way to a library

One of three obstacles keeps a unit out of a library (`Compiler.obstacle?`): it has no tree, an
earlier unit with a tree has its module name, or the language does not compile it.  Emitting
says one error for each obstacle, in order, and then what there is to say against the
references.  Units without obstacles become one module each (`of_emitUnits`).

So there is a library exactly if nothing stands in its way (`Compiler.IsComplete`), and it is
read back as the modules of all units in their order (`emission_accounts`).
-/
import PluginBuild.Proofs.File.Walk
import PluginBuild.Proofs.Library.Emit
import PluginBuild.Proofs.Library.Image
import Mathlib.Data.List.Forall2

namespace PluginBuild

set_option autoImplicit false

open Diagnostic (errors errors_append errors_error)

/-- Whether parsing some source gave a unit. -/
def SourceUnit.IsParsed (u : SourceUnit) : Prop :=
  ∃ files front path options, (Compiler.parseSource files front path options ()).result = .ok u

theorem SourceUnit.IsParsed.speaks {u : SourceUnit} (h : u.IsParsed) : u.Speaks := by
  obtain ⟨files, front, path, options, parsed⟩ := h
  exact (Compiler.of_parseSource parsed).2.2.2

namespace Compiler

/-! ## What keeps a unit out -/

/-- What keeps a unit out of a library. -/
inductive Obstacle where
  | unparsed
  /-- the module name is that of the source at `holder` -/
  | taken (holder : String)
  | uncompiled

/-- The path of the first unit with a tree that has a module name. -/
def holder? (earlier : List SourceUnit) (name : String) : Option String :=
  (earlier.find? fun u => u.tree.isSome && u.moduleName == name).map (·.path)

/-- What keeps a unit out behind earlier ones, if anything does. -/
def obstacle? (front : FrontEnd) (optimize : Int) (earlier : List SourceUnit) (u : SourceUnit) :
    Option Obstacle :=
  match u.tree with
  | none => some .unparsed
  | some tree =>
    match holder? earlier u.moduleName with
    | some holder => some (.taken holder)
    | none =>
      match (front.compile tree u.path optimize).result with
      | .error _ => some .uncompiled
      | .ok _ => none

/-- The units that are kept out behind earlier ones, each with its obstacle. -/
def obstacles (front : FrontEnd) (optimize : Int) (earlier : List SourceUnit) :
    List SourceUnit → List (SourceUnit × Obstacle)
  | [] => []
  | u :: units =>
    ((obstacle? front optimize earlier u).map (u, ·)).toList ++
      obstacles front optimize (earlier ++ [u]) units

/-- The error of a unit whose module name is taken. -/
def duplicateOf (u : SourceUnit) (holder : String) : Diagnostic :=
  .error Code.duplicateModule
    (some ("Module '" ++ u.moduleName ++ "' is already defined by '" ++ holder ++ "'"))
    (.ofFile u.path)

/-- Whether a diagnostic tells what keeps a unit out: it is the error of parsing it, names the
source that was before it, or has the code of a failed compilation; it lies in the source. -/
def Obstacle.Tells (d : Diagnostic) (u : SourceUnit) : Obstacle → Prop
  | unparsed => errors u.diagnostics = [d] ∧ ∃ code, d.LiesIn u.path code
  | taken holder => d = duplicateOf u holder
  | uncompiled => d.LiesIn u.path Code.compilation

/-- Whether a module is what a unit compiles to. -/
structure IsCompiled (front : FrontEnd) (optimize : Int) (u : SourceUnit) (m : Module) : Prop where
  name : m.name = u.moduleName
  path : m.path = u.path
  body : ∃ tree, u.tree = some tree ∧ (front.compile tree u.path optimize).result = .ok m.body

/-! ### Names in use -/

theorem holder?_append (earlier units : List SourceUnit) (name : String) :
    holder? (earlier ++ units) name = (holder? earlier name).or (holder? units name) := by
  rw [holder?, List.find?_append, Option.map_or, holder?, holder?]

theorem holder?_concat (earlier : List SourceUnit) (u : SourceUnit) (name : String) :
    holder? (earlier ++ [u]) name = (holder? earlier name).or
      (if u.tree.isSome && u.moduleName == name then some u.path else none) := by
  rw [holder?_append]
  congr 1
  rw [holder?, List.find?_singleton]
  split <;> rfl

/-- A unit without a tree takes no name. -/
theorem holder?_concat_of_unparsed {earlier : List SourceUnit} {u : SourceUnit}
    (unparsed : u.tree = none) (name : String) :
    holder? (earlier ++ [u]) name = holder? earlier name := by
  rw [holder?_concat, unparsed]
  exact Option.or_none

/-- A name that is taken stays with its holder. -/
theorem holder?_concat_of_taken {earlier : List SourceUnit} {u : SourceUnit} {holder : String}
    (taken : holder? earlier u.moduleName = some holder) (name : String) :
    holder? (earlier ++ [u]) name = holder? earlier name := by
  rw [holder?_concat]
  by_cases same : u.moduleName = name
  · subst same
    rw [taken]
    rfl
  · rw [beq_false_of_ne same, Bool.and_false]
    exact Option.or_none

theorem lookup_concat {taken : List (String × String)} {earlier : List SourceUnit}
    {u : SourceUnit} (agrees : ∀ name, taken.lookup name = holder? earlier name)
    (parsed : u.tree.isSome = true) (name : String) :
    (taken ++ [(u.moduleName, u.path)]).lookup name = holder? (earlier ++ [u]) name := by
  rw [holder?_concat, List.lookup_append, agrees, parsed, Bool.true_and, List.lookup_singleton,
    BEq.comm]

/-! ### The errors and modules of units -/

section Units

variable {front : FrontEnd} {optimize : Int} {taken : List (String × String)}
  {earlier units : List SourceUnit} {u : SourceUnit} {ds : List Diagnostic} {ms : List Module}

/-- What a unit adds to a library behind earlier ones: an error that tells what keeps it out, or
the module that it compiles to. -/
structure Adds (front : FrontEnd) (optimize : Int) (earlier : List SourceUnit) (u : SourceUnit)
    (said : List Diagnostic) (made : List Module) : Prop where
  said : List.Forall₂ (fun (u, obstacle) d => obstacle.Tells d u)
    ((obstacle? front optimize earlier u).map (u, ·)).toList said
  made : obstacle? front optimize earlier u = none →
    List.Forall₂ (IsCompiled front optimize) [u] made

theorem adds_of_obstacle {obstacle : Obstacle} {d : Diagnostic}
    (out : obstacle? front optimize earlier u = some obstacle) (tells : obstacle.Tells d u) :
    Adds front optimize earlier u [d] [] where
  said := by
    rw [out]
    exact .cons tells .nil
  made := by
    rw [out]
    exact nofun

theorem adds_of_compiled {m : Module} (free : obstacle? front optimize earlier u = none)
    (compiled : IsCompiled front optimize u m) : Adds front optimize earlier u [] [m] where
  said := by
    rw [free]
    exact .nil
  made _ := .cons compiled .nil

/-- What compiling a unit comes to, where it has a tree and its name is not taken. -/
theorem adds_of_report {tree : Tree} {body : Option Body} {own : List Diagnostic}
    (hasTree : u.tree = some tree) (free : holder? earlier u.moduleName = none)
    (answered : report (front.compile tree u.path optimize) u.path Code.compilation =
      .ok (body, own)) :
    Adds front optimize earlier u (errors own)
      (body.map fun b => Module.mk u.moduleName u.path b).toList := by
  obtain ⟨rfl, said⟩ := of_report answered
  cases result : (front.compile tree u.path optimize).result with
  | ok body =>
      have clean : errors own = [] := by
        rcases said with ⟨-, clean⟩ | ⟨failed, -⟩
        · exact clean
        · rw [result] at failed
          cases failed
      rw [clean]
      refine adds_of_compiled ?_ ⟨rfl, rfl, tree, hasTree, result⟩
      simp only [obstacle?, hasTree, free, result]
  | error r =>
      rcases said with ⟨compiled, -⟩ | ⟨-, d, one, lies⟩
      · rw [result] at compiled
        exact absurd rfl compiled
      · have out : obstacle? front optimize earlier u = some .uncompiled := by
          simp only [obstacle?, hasTree, free, result]
        rw [one]
        exact adds_of_obstacle out lies

/-- What emitting makes of a unit behind earlier ones: nothing of one without a tree, an error of
one whose name is taken, and of any other what the language answers. -/
inductive Treats (front : FrontEnd) (optimize : Int) (earlier : List SourceUnit) (u : SourceUnit) :
    List Diagnostic → List Module → Prop
  | unparsed (noTree : u.tree = none) : Treats front optimize earlier u [] []
  | taken {tree : Tree} {holder : String} (hasTree : u.tree = some tree)
      (holds : holder? earlier u.moduleName = some holder) :
      Treats front optimize earlier u [duplicateOf u holder] []
  | compiled {tree : Tree} {body : Option Body} {own : List Diagnostic}
      (hasTree : u.tree = some tree) (free : holder? earlier u.moduleName = none)
      (answered : report (front.compile tree u.path optimize) u.path Code.compilation =
        .ok (body, own)) :
      Treats front optimize earlier u own
        (body.map fun b => Module.mk u.moduleName u.path b).toList

/-- The first of some units is treated, and the others go on with the names that are in use
then. -/
theorem treats_of_emitUnits (agrees : ∀ name, taken.lookup name = holder? earlier name)
    (emitted : (emitUnits front optimize taken (u :: units) ()).result = .ok (ds, ms)) :
    ∃ own made taken' ds' ms', Treats front optimize earlier u own made ∧
      (∀ name, taken'.lookup name = holder? (earlier ++ [u]) name) ∧
      (emitUnits front optimize taken' units ()).result = .ok (ds', ms') ∧
      ds = u.diagnostics ++ own ++ ds' ∧ ms = made ++ ms' := by
  cases hasTree : u.tree with
  | none =>
      simp only [emitUnits, hasTree] at emitted
      obtain ⟨⟨ds', ms'⟩, rest, emitted⟩ := Act.result_bind_eq_ok.1 emitted
      cases emitted
      refine ⟨_, _, taken, ds', ms', .unparsed hasTree, ?_, rest, by rw [List.append_nil], rfl⟩
      intro name
      rw [agrees, holder?_concat_of_unparsed hasTree]
  | some tree =>
      cases holder : holder? earlier u.moduleName with
      | some holder' =>
          simp only [emitUnits, hasTree, agrees, holder] at emitted
          obtain ⟨⟨ds', ms'⟩, rest, emitted⟩ := Act.result_bind_eq_ok.1 emitted
          cases emitted
          refine ⟨_, _, taken, ds', ms', .taken hasTree holder, ?_, rest, ?_, rfl⟩
          · intro name
            rw [agrees, holder?_concat_of_taken holder]
          · rw [List.append_assoc]
            rfl
      | none =>
          simp only [emitUnits, hasTree, agrees, holder] at emitted
          obtain ⟨⟨⟩, -, emitted⟩ := Act.result_bind_eq_ok.1 emitted
          obtain ⟨⟨body, own⟩, answered, emitted⟩ := Act.result_bind_eq_ok.1 emitted
          obtain ⟨⟨ds', ms'⟩, rest, emitted⟩ := Act.result_bind_eq_ok.1 emitted
          cases emitted
          have inUse := lookup_concat agrees (Option.isSome_of_eq_some hasTree)
          exact ⟨_, _, _, ds', ms', .compiled hasTree holder answered, inUse, rest, rfl, rfl⟩

/-- A unit that speaks adds its errors, and those of treating it. -/
theorem Treats.adds {own : List Diagnostic} {made : List Module}
    (treats : Treats front optimize earlier u own made) (speaks : u.Speaks) :
    Adds front optimize earlier u (errors u.diagnostics ++ errors own) made := by
  rcases speaks with ⟨parsed, clean⟩ | ⟨unparsed, d, code, one, lies⟩
  · rw [clean, List.nil_append]
    cases treats with
    | unparsed noTree => exact absurd noTree parsed
    | @taken _ holder hasTree holds =>
        have out : obstacle? front optimize earlier u = some (.taken holder) := by
          simp only [obstacle?, hasTree, holds]
        have said : errors [duplicateOf u holder] = [duplicateOf u holder] :=
          errors_error _ _ _ []
        rw [said]
        exact adds_of_obstacle out rfl
    | compiled hasTree free answered => exact adds_of_report hasTree free answered
  · rw [one]
    cases treats with
    | unparsed =>
        have out : obstacle? front optimize earlier u = some .unparsed := by
          simp only [obstacle?, unparsed]
        exact adds_of_obstacle out ⟨one, code, lies⟩
    | taken hasTree => cases unparsed.symm.trans hasTree
    | compiled hasTree => cases unparsed.symm.trans hasTree

/-- The errors of units are one for each obstacle, and units without obstacles become one
module each, both in order. -/
theorem of_emitUnits (agrees : ∀ name, taken.lookup name = holder? earlier name)
    (speaks : ∀ u ∈ units, u.Speaks)
    (emitted : (emitUnits front optimize taken units ()).result = .ok (ds, ms)) :
    List.Forall₂ (fun (u, obstacle) d => obstacle.Tells d u)
        (obstacles front optimize earlier units) (errors ds) ∧
      (obstacles front optimize earlier units = [] →
        List.Forall₂ (IsCompiled front optimize) units ms) := by
  induction units generalizing taken earlier ds ms with
  | nil =>
      cases emitted
      exact ⟨.nil, fun _ => .nil⟩
  | cons u units ih =>
      obtain ⟨own, made, taken', ds', ms', treats, agrees', rest, rfl, rfl⟩ :=
        treats_of_emitUnits agrees emitted
      have adds := treats.adds (speaks u List.mem_cons_self)
      obtain ⟨tells, compiled⟩ := ih agrees' (fun v hv => speaks v (List.mem_cons_of_mem _ hv)) rest
      rw [obstacles, errors_append, errors_append]
      refine ⟨List.rel_append adds.said tells, ?_⟩
      intro free
      obtain ⟨first, others⟩ := List.append_eq_nil_iff.1 free
      rw [Option.toList_eq_nil_iff, Option.map_eq_none_iff] at first
      exact List.rel_append (adds.made first) (compiled others)

end Units

/-! ### Units without obstacles -/

/-- Whether a unit has a tree and the language compiles it. -/
def Compiles (front : FrontEnd) (optimize : Int) (u : SourceUnit) : Prop :=
  ∃ tree body, u.tree = some tree ∧ (front.compile tree u.path optimize).result = .ok body

theorem Compiles.isSome {front : FrontEnd} {optimize : Int} {u : SourceUnit}
    (h : Compiles front optimize u) : u.tree.isSome = true := by
  obtain ⟨tree, -, hasTree, -⟩ := h
  exact Option.isSome_of_eq_some hasTree

theorem obstacle?_eq_none_iff {front : FrontEnd} {optimize : Int} {earlier : List SourceUnit}
    {u : SourceUnit} : obstacle? front optimize earlier u = none ↔
      Compiles front optimize u ∧ holder? earlier u.moduleName = none := by
  cases hasTree : u.tree with
  | none => simp [obstacle?, Compiles, hasTree]
  | some tree =>
      cases holder : holder? earlier u.moduleName with
      | some other => simp [obstacle?, hasTree, holder]
      | none =>
          cases result : (front.compile tree u.path optimize).result <;>
            simp [obstacle?, Compiles, hasTree, holder, result]

theorem holder?_concat_eq_none_iff {earlier : List SourceUnit} {u : SourceUnit}
    (parsed : u.tree.isSome = true) (name : String) :
    holder? (earlier ++ [u]) name = none ↔ holder? earlier name = none ∧ u.moduleName ≠ name := by
  rw [holder?_concat, parsed, Bool.true_and, Option.or_eq_none_iff]
  by_cases same : u.moduleName = name <;> simp [same]

/-- No unit is kept out exactly if each compiles and none has a name that is taken. -/
theorem obstacles_eq_nil_iff {front : FrontEnd} {optimize : Int} {earlier units : List SourceUnit} :
    obstacles front optimize earlier units = [] ↔
      (∀ u ∈ units, Compiles front optimize u) ∧
      (∀ u ∈ units, holder? earlier u.moduleName = none) ∧ (units.map (·.moduleName)).Nodup := by
  induction units generalizing earlier with
  | nil => simp [obstacles]
  | cons u units ih =>
      rw [obstacles, List.append_eq_nil_iff, Option.toList_eq_nil_iff, Option.map_eq_none_iff,
        obstacle?_eq_none_iff, ih, List.forall_mem_cons, List.forall_mem_cons, List.map_cons,
        List.nodup_cons, List.mem_map]
      constructor
      · rintro ⟨⟨compiles, free⟩, others, frees, distinct⟩
        have behind := fun v hv => (holder?_concat_eq_none_iff compiles.isSome _).1 (frees v hv)
        refine ⟨⟨compiles, others⟩, ⟨free, ?_⟩, ?_, distinct⟩
        · intro v hv
          exact (behind v hv).1
        · rintro ⟨v, hv, same⟩
          exact (behind v hv).2 same.symm
      · rintro ⟨⟨compiles, others⟩, ⟨free, frees⟩, unique, distinct⟩
        refine ⟨⟨compiles, free⟩, others, ?_, distinct⟩
        intro v hv
        refine (holder?_concat_eq_none_iff compiles.isSome _).2 ⟨frees v hv, ?_⟩
        intro same
        exact unique ⟨v, hv, same.symm⟩

/-! ## References -/

/-- Whether a reference names a file that is an archive. -/
def IsArchive (files : FileSystem) (reference : String) : Prop :=
  ∃ bytes executable, files.status (.ofString reference) = .ok (some (.file bytes executable)) ∧
    Archive.check bytes = .archive

theorem complaint?_eq_none_iff {files : FileSystem} {reference : String} :
    complaint? files reference = none ↔ IsArchive files reference := by
  unfold complaint? complaintOf IsArchive
  split
  · next bytes executable status =>
    rw [status]
    split <;> simp [*]
  · next other =>
    refine iff_of_false nofun ?_
    rintro ⟨bytes, executable, status, -⟩
    exact other bytes executable status

/-- What is said against references are errors. -/
theorem errors_complaints (files : FileSystem) (references : List String) :
    errors (references.filterMap (complaint? files)) = references.filterMap (complaint? files) := by
  refine List.filter_eq_self.2 fun d among => ?_
  obtain ⟨r, -, complains⟩ := List.mem_filterMap.1 among
  unfold complaint? complaintOf at complains
  split at complains
  · split at complains
    · cases complains
    · cases complains
      exact Diagnostic.isError_error _ _ _
  · cases complains
    exact Diagnostic.isError_error _ _ _

/-! ## Libraries -/

section Libraries

variable {encode : Payload → List UInt8} {files : FileSystem} {front : FrontEnd}
  {optimize : Int} {name : LibraryName} {units : List SourceUnit} {references : List String}
  {e : Emission}

/-- Whether nothing stands in the way of a library. -/
structure IsComplete (files : FileSystem) (front : FrontEnd) (optimize : Int)
    (units : List SourceUnit) (references : List String) : Prop where
  parsed : ∀ u ∈ units, u.tree ≠ none
  distinct : (units.map (·.moduleName)).Nodup
  compiles : ∀ u ∈ units, ∀ tree, u.tree = some tree →
    ∃ body, (front.compile tree u.path optimize).result = .ok body
  archives : ∀ r ∈ references, IsArchive files r

theorem isComplete_iff : IsComplete files front optimize units references ↔
    obstacles front optimize [] units = [] ∧ references.filterMap (complaint? files) = [] := by
  rw [obstacles_eq_nil_iff, List.filterMap_eq_nil_iff]
  simp only [complaint?_eq_none_iff]
  constructor
  · rintro ⟨parsed, distinct, compiles, archives⟩
    refine ⟨⟨?_, fun _ _ => rfl, distinct⟩, archives⟩
    intro u hu
    obtain ⟨tree, hasTree⟩ := Option.ne_none_iff_exists'.1 (parsed u hu)
    obtain ⟨body, compiled⟩ := compiles u hu tree hasTree
    exact ⟨tree, body, hasTree, compiled⟩
  · rintro ⟨⟨compiles, -, distinct⟩, archives⟩
    refine ⟨?_, distinct, ?_, archives⟩
    · intro u hu
      exact Option.isSome_iff_ne_none.1 (compiles u hu).isSome
    · intro u hu tree hasTree
      obtain ⟨tree', body, hasTree', compiled⟩ := compiles u hu
      obtain rfl := Option.some.inj (hasTree.symm.trans hasTree')
      exact ⟨body, compiled⟩

/-- What emitting comes to, from the diagnostics and the modules of the units. -/
theorem of_emitLibrary
    (emitted : (emitLibrary encode files front optimize name units references ()).result = .ok e) :
    ∃ ofUnits modules, (emitUnits front optimize [] units ()).result = .ok (ofUnits, modules) ∧
      e.diagnostics = ofUnits ++ references.filterMap (complaint? files) ∧
      ((errors e.diagnostics = [] ∧ e.success = true ∧ e.image =
          some (encode (.library ⟨name, modules, references, some interpreterTag⟩))) ∨
        (errors e.diagnostics ≠ [] ∧ e.success = false ∧ e.image = none)) := by
  obtain ⟨⟨ofUnits, modules⟩, unitsDone, emitted⟩ := Act.result_bind_eq_ok.1 emitted
  obtain ⟨found, checked, emitted⟩ := Act.result_bind_eq_ok.1 emitted
  obtain ⟨-, rfl⟩ := mapM_checkReference.1 checked
  refine ⟨ofUnits, modules, unitsDone, ?_⟩
  simp only [List.filterMap_map, Function.id_comp, Act.result_ite, List.isEmpty_iff] at emitted
  split at emitted
  · next clean =>
    cases emitted
    exact ⟨rfl, .inl ⟨clean, rfl, rfl⟩⟩
  · next unclean =>
    cases emitted
    exact ⟨rfl, .inr ⟨unclean, rfl, rfl⟩⟩

end Libraries

end Compiler

/-- What an emission of units and references says of them, where payloads are written by a codec.
It succeeds exactly if nothing stands in the way.  Its image is then read back as one module for
each unit and the references, all in order; otherwise there is no image but an error.  Its errors
are one for each obstacle of a unit and then one for each reference that names no archive, all in
order. -/
structure Emission.Accounts (codec : Codec) (e : Emission) (files : FileSystem)
    (front : FrontEnd) (optimize : Int) (name : LibraryName) (units : List SourceUnit)
    (references : List String) : Prop where
  success : e.success = true ↔ Compiler.IsComplete files front optimize units references
  library : e.success = true → ∃ bytes image, e.image = some bytes ∧
    codec.decode? bytes = some (.library image) ∧ image.name = name ∧
    List.Forall₂ (Compiler.IsCompiled front optimize) units image.modules ∧
    image.references = references
  failure : e.success = false → e.image = none ∧ errors e.diagnostics ≠ []
  errors : ∃ ofUnits,
    errors e.diagnostics = ofUnits ++ references.filterMap (Compiler.complaint? files) ∧
    List.Forall₂ (fun (u, obstacle) d => Compiler.Obstacle.Tells d u obstacle)
      (Compiler.obstacles front optimize [] units) ofUnits

namespace Compiler

/-- No source is lost or made into two modules, and none is left out without an error. -/
theorem emission_accounts (codec : Codec) {files : FileSystem} {front : FrontEnd} {optimize : Int}
    {name : LibraryName} {units : List SourceUnit} {references : List String} {e : Emission}
    (parsed : ∀ u ∈ units, u.IsParsed)
    (emitted : ((scriptsIn codec.encode files front optimize).emit name units references
      ()).result = .ok e) :
    e.Accounts codec files front optimize name units references := by
  obtain ⟨ofUnits, modules, unitsDone, said, outcome⟩ := of_emitLibrary emitted
  have unused : ∀ name, ([] : List (String × String)).lookup name = holder? [] name := fun _ => rfl
  obtain ⟨tells, compiled⟩ := of_emitUnits unused (fun u hu => (parsed u hu).speaks) unitsDone
  have errorsOf : errors e.diagnostics =
      errors ofUnits ++ references.filterMap (complaint? files) := by
    rw [said, errors_append, errors_complaints]
  have unhindered : errors ofUnits = [] ↔ obstacles front optimize [] units = [] := by
    rw [← List.length_eq_zero_iff, ← List.length_eq_zero_iff, tells.length_eq]
  have clean : errors e.diagnostics = [] ↔ IsComplete files front optimize units references := by
    rw [errorsOf, List.append_eq_nil_iff, isComplete_iff, unhindered]
  rcases outcome with ⟨noError, success, image⟩ | ⟨someError, failure, noImage⟩
  · have complete := clean.1 noError
    refine ⟨iff_of_true success complete, ?_, ?_, _, errorsOf, tells⟩
    · intro _
      exact ⟨_, _, image, codec.decode?_encode _, rfl, compiled (isComplete_iff.1 complete).1, rfl⟩
    · rw [success]
      exact nofun
  · refine ⟨iff_of_false ?_ (mt clean.2 someError), ?_, fun _ => ⟨noImage, someError⟩, _, errorsOf,
      tells⟩
    · rw [failure]
      exact Bool.false_ne_true
    · rw [failure]
      exact nofun

/-- A language in which every text means nothing. -/
def accepting : FrontEnd where
  parse path text _ := ⟨[], .ok ⟨path, text⟩⟩
  compile _ _ _ := ⟨[], .ok ⟨[], none⟩⟩

/-- A directory with one source, in which nothing is written. -/
def desk : FileSystem := ⟨.dir [("one.py", .file [] false)], []⟩

/-- The unit of that source. -/
def blank : SourceUnit := ⟨"one.py", "one", ⟨none, ∅⟩, some ⟨"one.py", ""⟩, []⟩

theorem status_desk : desk.status (.ofString "one.py") = .ok (some (.file [] false)) :=
  FileSystem.status_of_unlinked (by decide) (by decide) (by decide)

/-- Parsing a source in which nothing is written is what the language makes of an empty text. -/
theorem parseSource_of_empty {files : FileSystem} {path : String} {executable : Bool}
    (empty : files.status (.ofString path) = .ok (some (.file [] executable)))
    (writable : '\x00' ∉ path.toList) (front : FrontEnd) (options : ParseOptions) :
    (parseSource files front path options ()).result =
      (report (front.parse path "" options.languageVersion) path Code.syntaxError).map
        fun (tree, own) => ⟨path, (Path.ofString path).stem, options, tree, own⟩ := by
  have noNul : ¬FileSystem.hasNul (.ofString path) = true :=
    fun nul => writable ((FileSystem.hasNul_ofString path).1 nul)
  have read : Source.read files (.ofString path) = .ok "" := by
    rw [Source.read, FileSystem.read_of_status empty]
    rfl
  have kept : Directive.preprocess "" options.symbols = .ok "" := rfl
  rw [parseSource, if_neg noNul]
  simp only [read, kept, Act.result_bind, Act.result_leave, Act.result_ofExcept]
  cases report (front.parse path "" options.languageVersion) path Code.syntaxError <;> rfl

theorem parseSource_desk (front : FrontEnd) :
    (parseSource desk front "one.py" ⟨none, ∅⟩ ()).result =
      (report (front.parse "one.py" "" none) "one.py" Code.syntaxError).map
        fun (tree, own) => ⟨"one.py", "one", ⟨none, ∅⟩, tree, own⟩ := by
  have stem : (Path.ofString "one.py").stem = "one" := by decide
  rw [parseSource_of_empty status_desk (by decide), stem]

theorem isParsed_blank : blank.IsParsed :=
  ⟨desk, accepting, "one.py", ⟨none, ∅⟩, parseSource_desk accepting⟩

/-- Alone the source becomes a library, and twice it does not. -/
theorem emission_accounts_blank :
    blank.IsParsed ∧
      (∃ e, ((scripts desk accepting (-1)).emit (some "Scripts") [blank] [] ()).result = .ok e ∧
        e.Accounts .compact desk accepting (-1) (some "Scripts") [blank] [] ∧ e.success = true) ∧
      ∃ e, ((scripts desk accepting (-1)).emit (some "Scripts") [blank, blank] [] ()).result =
          .ok e ∧
        e.Accounts .compact desk accepting (-1) (some "Scripts") [blank, blank] [] ∧
        e.success = false := by
  have emits : ∀ units ds ms, (emitUnits accepting (-1) [] units ()).result = .ok (ds, ms) →
      ∃ e, ((scripts desk accepting (-1)).emit (some "Scripts") units [] ()).result = .ok e := by
    intro units ds ms ofUnits
    obtain ⟨e, emitted, -⟩ := exists_emission ofUnits (List.forall_mem_nil (Checkable desk))
    exact ⟨e, emitted⟩
  obtain ⟨one, emitsOne⟩ := emits [blank] _ _ rfl
  obtain ⟨two, emitsTwo⟩ := emits [blank, blank] _ _ rfl
  have ofOne := emission_accounts .compact (List.forall_mem_singleton.2 isParsed_blank) emitsOne
  have ofTwo := emission_accounts .compact (by simp [isParsed_blank]) emitsTwo
  refine ⟨isParsed_blank, ⟨one, emitsOne, ofOne, ?_⟩, two, emitsTwo, ofTwo, ?_⟩
  · exact ofOne.success.2 (isComplete_iff.2 ⟨rfl, rfl⟩)
  · rw [← Bool.not_eq_true, ofTwo.success]
    intro complete
    exact absurd complete.distinct (by decide)

end Compiler

end PluginBuild
