/-
# Proofs.Library.Emit -- a reference that cannot be used becomes a diagnostic

Where the language raises nothing but exceptions that are reported, emitting gets through
the units and then checks the references in order.  A reference has something said against
it if there is no file or the file is no archive (`Compiler.complaint?`).  Only a path that
cannot be asked about and an archive that goes on elsewhere make emitting fail
(`Compiler.Checkable`), and they are what keeps the first request to compile from its
answer (`Compiler.emit_contained`).
-/
import PluginBuild.Proofs.Library.Parse

namespace PluginBuild

set_option autoImplicit false

open PluginBuild.Wire
open Diagnostic (errors errors_error)

/-- Whether every exception of compiling is turned into a diagnostic. -/
def FrontEnd.CompileReported (front : FrontEnd) : Prop :=
  ∀ tree path optimize r, (front.compile tree path optimize).result = .error r → r.IsReported

namespace Compiler

/-! ## Emitting -/

/-- The units of a library always end in diagnostics and modules. -/
theorem exists_emitUnits {front : FrontEnd} (reported : front.CompileReported) (optimize : Int)
    (taken : List (String × String)) (units : List SourceUnit) :
    ∃ ds ms, (emitUnits front optimize taken units ()).result = .ok (ds, ms) := by
  induction units generalizing taken with
  | nil => exact ⟨[], [], rfl⟩
  | cons u units ih =>
      cases tree : u.tree with
      | none =>
          obtain ⟨ds, ms, rest⟩ := ih taken
          refine ⟨u.diagnostics ++ ds, ms, ?_⟩
          simp only [emitUnits, tree, Act.result_bind, rest, Act.result_pure]
      | some tree' =>
          cases holder : taken.lookup u.moduleName with
          | some other =>
              obtain ⟨ds, ms, rest⟩ := ih taken
              simp only [emitUnits, tree, holder, Act.result_bind, rest, Act.result_pure]
              exact ⟨_, _, rfl⟩
          | none =>
              obtain ⟨ds, ms, rest⟩ := ih (taken ++ [(u.moduleName, u.path)])
              obtain ⟨own, answer, -⟩ :=
                exists_report (reported tree' u.path optimize) u.path Code.compilation
              simp only [emitUnits, tree, holder, Act.result_bind, Act.result_leave,
                Act.state_leave, Act.result_ofExcept, Act.state_ofExcept, answer, rest,
                Act.result_pure]
              exact ⟨_, _, rfl⟩

/-- Whether the compiler can tell what a reference is: the path can be asked about, and no
archive there goes on elsewhere. -/
def Checkable (files : FileSystem) (reference : String) : Prop :=
  ∃ node, files.status (.ofString reference) = .ok node ∧
    ∀ bytes executable, node = some (.file bytes executable) → Archive.check bytes ≠ .spanning

/-- What there is to say against a reference, from what is at its path: there is no file, or
it is no archive. -/
def complaintOf (reference : String) : Except File.Error (Option Node) → Option Diagnostic
  | .ok (some (.file bytes _)) =>
    if Archive.check bytes = .archive then none
    else some (.error Code.referenceInvalid
      (some ("Metadata file '" ++ reference ++ "'" ++ " is not a module archive"))
      (.ofFile reference))
  | _ => some (.error Code.referenceAbsent
      (some ("Metadata file '" ++ reference ++ "'" ++ " could not be found")) (.ofFile reference))

/-- What there is to say against a reference, if anything is. -/
def complaint? (files : FileSystem) (reference : String) : Option Diagnostic :=
  complaintOf reference (files.status (.ofString reference))

theorem checkReference_of_file {files : FileSystem} {reference : String} {bytes : List UInt8}
    {executable : Bool}
    (status : files.status (.ofString reference) = .ok (some (.file bytes executable))) :
    checkReference files reference =
      if Archive.check bytes = .spanning then .error .spanningArchive
      else .ok (complaint? files reference) := by
  have asked : files.isFile (.ofString reference) = .ok true :=
    FileSystem.isFile_eq_true.2 ⟨bytes, executable, status⟩
  have read := FileSystem.read_of_status status
  rw [checkReference, asked, complaint?, status, complaintOf]
  simp only [read, mapError_ok]
  cases Archive.check bytes <;> rfl

theorem checkReference_of_noFile {files : FileSystem} {reference : String} {node : Option Node}
    (status : files.status (.ofString reference) = .ok node)
    (noFile : ∀ bytes executable, node ≠ some (.file bytes executable)) :
    checkReference files reference = .ok (complaint? files reference) := by
  rw [checkReference, FileSystem.isFile, complaint?, status]
  rcases node with _ | ⟨bytes, executable⟩ | entries | target
  · rfl
  · exact absurd rfl (noFile bytes executable)
  · rfl
  · rfl

theorem checkReference_eq_ok {files : FileSystem} {reference : String}
    {found : Option Diagnostic} : checkReference files reference = .ok found ↔
      Checkable files reference ∧ found = complaint? files reference := by
  rw [eq_comm (a := found)]
  cases status : files.status (.ofString reference) with
  | error e =>
      have unasked : files.isFile (.ofString reference) = .error e :=
        FileSystem.isFile_eq_error.2 status
      constructor
      · intro checked
        rw [checkReference, unasked] at checked
        cases checked
      · rintro ⟨⟨node, here, -⟩, -⟩
        cases status.symm.trans here
  | ok node =>
      by_cases isFile : ∃ bytes executable, node = some (.file bytes executable)
      · obtain ⟨bytes, executable, rfl⟩ := isFile
        rw [checkReference_of_file status]
        by_cases spanning : Archive.check bytes = .spanning
        · rw [if_pos spanning]
          constructor
          · intro checked
            cases checked
          · rintro ⟨⟨node, here, ends⟩, -⟩
            cases status.symm.trans here
            exact absurd spanning (ends bytes executable rfl)
        · rw [if_neg spanning, Except.ok.injEq]
          refine (and_iff_right ⟨_, status, ?_⟩).symm
          rintro _ _ ⟨⟩
          exact spanning
      · have noFile : ∀ bytes executable, node ≠ some (.file bytes executable) :=
          fun bytes executable here => isFile ⟨bytes, executable, here⟩
        rw [checkReference_of_noFile status noFile, Except.ok.injEq]
        refine (and_iff_right ⟨node, status, ?_⟩).symm
        intro bytes executable here
        exact absurd here (noFile bytes executable)

/-- All references are checked exactly if each can be, and then each has its say. -/
theorem mapM_checkReference {files : FileSystem} {references : List String}
    {found : List (Option Diagnostic)} :
    references.mapM (checkReference files) = .ok found ↔
      (∀ r ∈ references, Checkable files r) ∧ found = references.map (complaint? files) := by
  induction references generalizing found with
  | nil =>
      rw [List.mapM_nil]
      constructor
      · intro h
        cases h
        exact ⟨fun _ hr => absurd hr List.not_mem_nil, rfl⟩
      · rintro ⟨-, rfl⟩
        rfl
  | cons r references ih =>
      rw [List.mapM_cons]
      constructor
      · intro h
        obtain ⟨first, checked, h⟩ := exists_of_bind_eq_ok h
        obtain ⟨others, rest, h⟩ := exists_of_bind_eq_ok h
        cases h
        obtain ⟨checkable, same⟩ := checkReference_eq_ok.1 checked
        obtain ⟨allCheckable, sameRest⟩ := ih.1 rest
        refine ⟨?_, by rw [same, sameRest, List.map_cons]⟩
        intro other hother
        rcases List.mem_cons.1 hother with rfl | hother
        · exact checkable
        · exact allCheckable other hother
      · rintro ⟨checkable, rfl⟩
        have first := checkReference_eq_ok.2 ⟨checkable r List.mem_cons_self, rfl⟩
        have rest := ih.2 ⟨fun other hother => checkable other (List.mem_cons_of_mem _ hother), rfl⟩
        rw [first, rest]
        rfl

section Emitting

variable {encode : Payload → List UInt8} {files : FileSystem} {front : FrontEnd}
  {optimize : Int} {name : LibraryName} {units : List SourceUnit} {references : List String}
  {ofUnits : List Diagnostic} {modules : List Module}

/-- A library is emitted exactly if all references can be checked. -/
theorem checkable_of_emitLibrary {e : Emission}
    (emitted : (emitLibrary encode files front optimize name units references ()).result = .ok e) :
    ∀ r ∈ references, Checkable files r := by
  obtain ⟨⟨ofUnits, modules⟩, -, emitted⟩ := Act.result_bind_eq_ok.1 emitted
  obtain ⟨found, checked, -⟩ := Act.result_bind_eq_ok.1 emitted
  exact (mapM_checkReference.1 checked).1

theorem exists_emission
    (unitsDone : (emitUnits front optimize [] units ()).result = .ok (ofUnits, modules))
    (checkable : ∀ r ∈ references, Checkable files r) :
    ∃ e, (emitLibrary encode files front optimize name units references ()).result = .ok e ∧
      e.diagnostics = ofUnits ++ references.filterMap (complaint? files) ∧
      (e.success = true ↔ errors e.diagnostics = []) := by
  have checked := mapM_checkReference.2 ⟨checkable, rfl⟩
  have same : (references.map (complaint? files)).filterMap id =
      references.filterMap (complaint? files) := by
    rw [List.filterMap_map, Function.id_comp]
  simp only [emitLibrary, Act.result_bind, unitsDone, Act.result_ofExcept, checked, same,
    Act.result_ite, List.isEmpty_iff]
  by_cases clean : errors (ofUnits ++ references.filterMap (complaint? files)) = []
  · rw [if_pos clean]
    exact ⟨_, rfl, rfl, iff_of_true rfl clean⟩
  · rw [if_neg clean]
    exact ⟨_, rfl, rfl, iff_of_false Bool.false_ne_true clean⟩

end Emitting

/-! ### The answer of a session -/

/-- Diagnostics can be shown exactly if each has a message. -/
theorem mapM_line_eq_none {ds : List Diagnostic} :
    ds.mapM Diagnostic.line? = none ↔ ∃ d ∈ ds, d.message = none := by
  induction ds with
  | nil => simp
  | cons d ds ih =>
      rw [List.mapM_cons]
      cases message : d.message with
      | none => simp [Diagnostic.line?, message]
      | some m =>
          have shown : d.line? ≠ none := by simp [Diagnostic.line?, message]
          obtain ⟨line, shown⟩ := Option.ne_none_iff_exists'.1 shown
          rw [shown]
          simp only [Option.bind_eq_bind, Option.bind_some, Option.bind_eq_none_iff,
            Option.pure_def, reduceCtorEq, List.mem_cons, exists_eq_or_imp, message, false_or, ← ih]
          cases ds.mapM Diagnostic.line? <;> simp

/-- An emission stands for a result exactly if it succeeded or all it has to say can be
shown. -/
theorem exists_resultOf {e : Emission} : (∃ r, Session.resultOf e = .ok r) ↔
    e.success = true ∨ ∀ d ∈ e.diagnostics, d.message ≠ none := by
  unfold Session.resultOf
  by_cases success : e.success = true
  · rw [if_pos success]
    exact iff_of_true ⟨_, rfl⟩ (.inl success)
  · rw [if_neg success]
    cases lines : e.diagnostics.mapM Diagnostic.line? with
    | none =>
        obtain ⟨d, among, silent⟩ := mapM_line_eq_none.1 lines
        refine iff_of_false ?_ ?_
        · rintro ⟨r, shown⟩
          cases shown
        · rintro (done | spoken)
          · exact success done
          · exact spoken d among silent
    | some shown =>
        refine iff_of_true ⟨_, rfl⟩ (.inr ?_)
        intro d among silent
        have hidden := mapM_line_eq_none.2 ⟨d, among, silent⟩
        cases lines.symm.trans hidden

/-- The first request to compile is answered exactly if the compiler emits something that
stands for a result. -/
theorem exists_compiled {c : Compiler} {s : Session} (first : s.compiled = false) :
    (∃ r, (Session.compile c s).result = .ok r) ↔
      ∃ e, (c.emit s.name s.units s.references ()).result = .ok e ∧
        (e.success = true ∨ ∀ d ∈ e.diagnostics, d.message ≠ none) := by
  cases emitted : (c.emit s.name s.units s.references ()).result with
  | error cause =>
      have stopped : (Session.compile c s).result = .error (.compiler cause) := by
        simp only [Session.compile, Act.result_bind, Act.result_get, Act.state_get, first,
          Bool.false_eq_true, if_false, Act.result_modify, Act.state_modify, Act.result_leave,
          Act.state_leave, Act.result_free, Act.result_mapError, emitted, mapError_error]
      rw [stopped]
      refine iff_of_false ?_ ?_
      · rintro ⟨r, returned⟩
        cases returned
      · rintro ⟨e, returned, -⟩
        cases returned
  | ok e =>
      rw [Session.result_compile first emitted, exists_resultOf]
      constructor
      · intro shown
        exact ⟨e, rfl, shown⟩
      · rintro ⟨_, ⟨⟩, shown⟩
        exact shown

theorem message_complaint {files : FileSystem} {reference : String} {d : Diagnostic}
    (h : complaint? files reference = some d) : d.message ≠ none := by
  unfold complaint? complaintOf at h
  split at h
  · split at h
    · cases h
    · cases h
      exact Option.some_ne_none _
  · cases h
    exact Option.some_ne_none _

/-- Emitting gives a library or diagnostics exactly if every reference can be checked; the
references have their say in order, behind that of the units.  So the first request to
compile is answered exactly if they can be checked and, where there is an error, all that
there is to say of the units can be shown. -/
theorem emit_contained {front : FrontEnd} (reported : front.CompileReported)
    (files : FileSystem) (optimize : Int) (name : LibraryName) (units : List SourceUnit)
    (references : List String) :
    ∃ ofUnits modules, (emitUnits front optimize [] units ()).result = .ok (ofUnits, modules) ∧
      ((∃ e, ((scripts files front optimize).emit name units references ()).result = .ok e) ↔
        ∀ r ∈ references, Checkable files r) ∧
      (∀ e, ((scripts files front optimize).emit name units references ()).result = .ok e →
        e.diagnostics = ofUnits ++ references.filterMap (complaint? files) ∧
          (e.success = true ↔ errors e.diagnostics = [])) ∧
      ∀ s : Session, s.name = name → s.units = units → s.references = references →
        s.compiled = false →
        ((∃ r, (Session.compile (scripts files front optimize) s).result = .ok r) ↔
          (∀ r ∈ references, Checkable files r) ∧
            (errors (ofUnits ++ references.filterMap (complaint? files)) = [] ∨
              ∀ d ∈ ofUnits, d.message ≠ none)) := by
  obtain ⟨ofUnits, modules, done⟩ := exists_emitUnits reported optimize [] units
  have emits : (∀ r ∈ references, Checkable files r) →
      ∃ e, ((scripts files front optimize).emit name units references ()).result = .ok e ∧
        e.diagnostics = ofUnits ++ references.filterMap (complaint? files) ∧
        (e.success = true ↔ errors e.diagnostics = []) := exists_emission done
  refine ⟨ofUnits, modules, done, ⟨?_, ?_⟩, ?_, ?_⟩
  · rintro ⟨e, emitted⟩
    exact checkable_of_emitLibrary emitted
  · intro checkable
    obtain ⟨e, emitted, -⟩ := emits checkable
    exact ⟨e, emitted⟩
  · intro e emitted
    obtain ⟨e', emitted', said⟩ := emits (checkable_of_emitLibrary emitted)
    cases emitted.symm.trans emitted'
    exact said
  · rintro s rfl rfl rfl first
    rw [exists_compiled first]
    -- What is said against a reference can always be shown.
    have shown : ∀ e : Emission,
        e.diagnostics = ofUnits ++ s.references.filterMap (complaint? files) →
        ((∀ d ∈ e.diagnostics, d.message ≠ none) ↔ ∀ d ∈ ofUnits, d.message ≠ none) := by
      intro e said
      rw [said, List.forall_mem_append]
      refine and_iff_left fun d among => ?_
      obtain ⟨r, -, complains⟩ := List.mem_filterMap.1 among
      exact message_complaint complains
    constructor
    · rintro ⟨e, emitted, answered⟩
      have checkable := checkable_of_emitLibrary emitted
      obtain ⟨e', emitted', said, success⟩ := emits checkable
      cases emitted.symm.trans emitted'
      rw [success, shown e said, said] at answered
      exact ⟨checkable, answered⟩
    · rintro ⟨checkable, answered⟩
      obtain ⟨e, emitted, said, success⟩ := emits checkable
      refine ⟨e, emitted, ?_⟩
      rw [success, shown e said, said]
      exact answered

theorem compileReported_refusing : refusing.CompileReported := by
  intro tree path optimize r raised
  cases raised
  exact .inr (by decide)

/-- The end of an archive of which this is the second disk. -/
def splitArchive : List UInt8 :=
  Archive.locatorSignature ++ [1, 0, 0, 0] ++ List.replicate 8 0 ++ [1, 0, 0, 0] ++
    Archive.endSignature ++ List.replicate 18 0

/-- A directory with one such archive. -/
def shelf : FileSystem := ⟨.dir [("split.pyz", .file splitArchive false)], []⟩

theorem status_shelf {name : String} (path : Path.ofString name = ⟨.none, [name]⟩)
    (writable : FileSystem.hasNul ⟨.none, [name]⟩ = false)
    (short : ¬ FileSystem.maxPath < (Path.text ⟨.none, [name]⟩).utf8ByteSize)
    (shortName : ¬ FileSystem.maxName < name.utf8ByteSize)
    (plain : name ∉ ["", ".", ".."]) :
    shelf.status (.ofString name) =
      .ok (if name = "split.pyz" then some (.file splitArchive false) else none) := by
  simp only [List.mem_cons, List.not_mem_nil, or_false, not_or] at plain
  rw [path, FileSystem.status, writable, FileSystem.find, if_neg short]
  by_cases split : name = "split.pyz"
  · subst split
    simp [Path.isAbsolute, FileSystem.reach, Node.at?, FileSystem.walk, shelf, Node.entry?,
      shortName]
  · have other : (name == "split.pyz") = false := beq_false_of_ne split
    simp [Path.isAbsolute, FileSystem.reach, Node.at?, FileSystem.walk, shelf, Node.entry?,
      List.lookup_cons, shortName, plain, split, other, File.Cause.meansNothing]

theorem status_split :
    shelf.status (.ofString "split.pyz") = .ok (some (.file splitArchive false)) :=
  status_shelf (by decide) (by decide) (by decide) (by decide) (by decide)

theorem status_gone : shelf.status (.ofString "gone.pyz") = .ok none :=
  status_shelf (by decide) (by decide) (by decide) (by decide) (by decide)

theorem emit_contained_gone :
    refusing.CompileReported ∧ Checkable shelf "gone.pyz" ∧
      ∃ e, ((scripts shelf refusing (-1)).emit (some "Scripts") [] ["gone.pyz"] ()).result = .ok e ∧
        e.success = false ∧ e.diagnostics = [.error Code.referenceAbsent
          (some "Metadata file 'gone.pyz' could not be found") (.ofFile "gone.pyz")] := by
  have checkable : Checkable shelf "gone.pyz" :=
    ⟨none, status_gone, fun _ _ absent => by cases absent⟩
  obtain ⟨ofUnits, modules, done, emits, said, -⟩ :=
    emit_contained compileReported_refusing shelf (-1) (some "Scripts") [] ["gone.pyz"]
  cases done
  obtain ⟨e, emitted⟩ := emits.2 (List.forall_mem_singleton.2 checkable)
  obtain ⟨diagnostics, success⟩ := said e emitted
  have complains : ["gone.pyz"].filterMap (complaint? shelf) = [.error Code.referenceAbsent
      (some "Metadata file 'gone.pyz' could not be found") (.ofFile "gone.pyz")] := by
    simp only [List.filterMap_cons, complaint?, complaintOf, status_gone]
    rfl
  rw [complains, List.nil_append] at diagnostics
  refine ⟨compileReported_refusing, checkable, e, emitted, ?_, diagnostics⟩
  rw [← Bool.not_eq_true, success, diagnostics, errors_error]
  exact List.cons_ne_nil _ _

/-- An archive that goes on elsewhere makes emitting fail without a diagnostic. -/
theorem emit_split_raises :
    refusing.CompileReported ∧
      ¬ ∃ e, ((scripts shelf refusing (-1)).emit (some "Scripts") [] ["split.pyz"] ()).result =
        .ok e := by
  refine ⟨compileReported_refusing, ?_⟩
  rintro ⟨e, emitted⟩
  obtain ⟨node, status, ends⟩ := checkable_of_emitLibrary emitted "split.pyz" List.mem_cons_self
  cases status_split.symm.trans status
  exact ends splitArchive false rfl (by decide)

end Compiler

end PluginBuild
