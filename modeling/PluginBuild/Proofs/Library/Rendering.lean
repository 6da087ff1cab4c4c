/-
# Proofs.Library.Rendering -- the line that shows a diagnostic

A diagnostic is shown by the file in which it lies, a place in it, a severity, a code and a
message.  The lines of the message are joined, and of the rest only the name of the file is not
the compiler's own (`exists_of_line`).  So a diagnostic is shown as a single line exactly if the
name of its file is one (`isPlain_line_iff`).

The sources and references that users name are these files, and a name may have a line end.  A
result with a failure therefore has as many lines as diagnostics exactly if no file with a
diagnostic has such a name (`emission_lines`).
-/
import PluginBuild.Proofs.Library.Order
import PluginBuild.Proofs.Number.Integer
import PluginBuild.Proofs.Text.Line

namespace PluginBuild

set_option autoImplicit false

open PluginBuild.Text

namespace Compiler

variable {d : Diagnostic} {file line : String}

/-! ## The parts of a line -/

/-- Every code of the compiler. -/
def Code.all : List String := Code.duplicateModule :: (Code.ofSources ++ Code.ofReferences)

theorem Concerns.known {codes : List String} (h : Concerns d file codes)
    (known : codes ⊆ Code.all) : Concerns d file Code.all := ⟨h.severity, known h.code, h.file⟩

theorem isPlain_number (n : Int) : IsPlain (toString n).toList := by
  have digits : ∀ c ∈ lineEndChars, c ≠ '-' ∧ c.isDigit = false :=
    List.forall_iff_forall_mem.1 (by decide)
  intro c among
  rw [← Bool.not_eq_true]
  intro ends
  obtain ⟨noSign, noDigit⟩ := digits c (isLineEnd_iff.1 ends)
  rcases Number.Integer.mem_toString among with ⟨sign, -⟩ | digit
  · exact noSign sign
  · rw [noDigit] at digit
    cases digit

theorem exists_of_place (l : Location) :
    ∃ rest, (Diagnostic.place (some l)).toList = l.file.toList ++ rest ∧ IsPlain rest := by
  have opens : IsPlain "(".toList := by decide
  have comma : IsPlain ",".toList := by decide
  have closes : IsPlain "): ".toList := by decide
  have colon : IsPlain ": ".toList := by decide
  rw [Diagnostic.place]
  split
  · refine ⟨"(".toList ++ ((toString l.line).toList ++ (",".toList ++
      ((toString (max l.column 1)).toList ++ "): ".toList))), ?_, ?_⟩
    · simp only [String.toList_append, List.append_assoc]
    · simp only [isPlain_append]
      exact ⟨opens, isPlain_number _, comma, isPlain_number _, closes⟩
  · exact ⟨": ".toList, String.toList_append, colon⟩

/-- A diagnostic is shown by the name of its file and a single line behind it. -/
theorem exists_of_line (concerns : Concerns d file Code.all)
    (shown : d.line? = some line) :
    ∃ rest, line.toList = file.toList ++ rest ∧ rest ≠ [] ∧ IsPlain rest := by
  have ofSeverity : ∀ severity ∈ [Diagnostic.errorSeverity, Diagnostic.warningSeverity],
      IsPlain severity.toList := by decide
  have ofCode : ∀ code ∈ Code.all,
      IsPlain (if code = "" then "" else " " ++ code).toList := by decide
  have colon : IsPlain ": ".toList := by decide
  obtain ⟨message, -, rfl⟩ := Option.map_eq_some_iff.1 shown
  obtain ⟨l, lies, rfl⟩ := Option.map_eq_some_iff.1 concerns.file
  obtain ⟨place, placed, plain⟩ := exists_of_place l
  refine ⟨place ++ (d.severity.toList ++ ((if d.code = "" then "" else " " ++ d.code).toList ++
    (": ".toList ++ (joinLines message).toList))), ?_, ?_, ?_⟩
  · rw [lies]
    simp only [String.toList_append, placed, List.append_assoc]
  · simp
  · simp only [isPlain_append]
    exact ⟨plain, ofSeverity _ concerns.severity, ofCode _ concerns.code, colon,
      isPlain_joinLines message⟩

/-- A diagnostic is shown as a single line exactly if the name of its file is one. -/
theorem isPlain_line_iff (concerns : Concerns d file Code.all)
    (shown : d.line? = some line) : IsPlain line.toList ↔ IsPlain file.toList := by
  obtain ⟨rest, split, -, plain⟩ := exists_of_line concerns shown
  rw [split, isPlain_append, and_iff_left plain]

theorem length_lines_line_iff (concerns : Concerns d file Code.all)
    (shown : d.line? = some line) :
    (Text.lines line.toList).length = 1 ↔ IsPlain file.toList := by
  obtain ⟨rest, split, nonempty, plain⟩ := exists_of_line concerns shown
  rw [split, length_lines_eq_one_iff plain nonempty]

/-! ## The lines of a result -/

/-- The lines of some texts together. -/
def linesOf (texts : List String) : List (List Char) := texts.flatMap fun t => Text.lines t.toList

/-- Texts that are not empty have as many lines as there are texts exactly if each has one. -/
theorem length_linesOf {texts : List String} (nonempty : ∀ t ∈ texts, t.toList ≠ []) :
    texts.length ≤ (linesOf texts).length ∧
      ((linesOf texts).length = texts.length ↔
        ∀ t ∈ texts, (Text.lines t.toList).length = 1) := by
  induction texts with
  | nil => simp [linesOf]
  | cons t texts ih =>
      obtain ⟨first, others⟩ := List.forall_mem_cons.1 nonempty
      obtain ⟨atLeast, exactly⟩ := ih others
      have one : 0 < (Text.lines t.toList).length := List.length_pos_iff.2 (lines_ne_nil first)
      rw [List.forall_mem_cons, ← exactly, linesOf, List.flatMap_cons, ← linesOf,
        List.length_append, List.length_cons]
      omega

/-- What holds of the texts that show diagnostics holds of what shows each. -/
theorem forall_mem_shown {ds : List Diagnostic} {shown : List String} {p : String → Prop}
    (shows : ds.map Diagnostic.line? = shown.map some) :
    (∀ t ∈ shown, p t) ↔ ∀ d ∈ ds, ∃ t, d.line? = some t ∧ p t := by
  constructor
  · intro holds d among
    have here : d.line? ∈ shown.map some := by
      rw [← shows]
      exact List.mem_map_of_mem among
    obtain ⟨t, ht, line⟩ := List.mem_map.1 here
    exact ⟨t, line.symm, holds t ht⟩
  · intro holds t ht
    have here : some t ∈ ds.map Diagnostic.line? := by
      rw [shows]
      exact List.mem_map_of_mem ht
    obtain ⟨d, among, line⟩ := List.mem_map.1 here
    obtain ⟨t', line', holds⟩ := holds d among
    cases line.symm.trans line'
    exact holds

/-- Diagnostics that lie in files are shown by as many lines as there are diagnostics exactly if
the names of these files are single lines. -/
theorem length_linesOf_shown {ds : List Diagnostic} {shown : List String}
    (shows : ds.map Diagnostic.line? = shown.map some)
    (concerns : ∀ d ∈ ds, ∃ file, Concerns d file Code.all) :
    (linesOf shown).length = ds.length ↔
      ∀ d ∈ ds, ∀ l, d.location = some l → IsPlain l.file.toList := by
  have every : ∀ d ∈ ds, ∃ t, d.line? = some t ∧ True :=
    (forall_mem_shown shows).1 fun _ _ => trivial
  have nonempty : ∀ t ∈ shown, t.toList ≠ [] := by
    refine (forall_mem_shown shows).2 fun d among => ?_
    obtain ⟨t, line, -⟩ := every d among
    obtain ⟨file, concerns⟩ := concerns d among
    obtain ⟨rest, split, visible, -⟩ := exists_of_line concerns line
    exact ⟨t, line, split ▸ List.append_ne_nil_of_right_ne_nil _ visible⟩
  have same : ds.length = shown.length := by
    have := congrArg List.length shows
    rwa [List.length_map, List.length_map] at this
  rw [same, (length_linesOf nonempty).2, forall_mem_shown shows]
  refine forall₂_congr fun d among => ?_
  obtain ⟨t, line, -⟩ := every d among
  obtain ⟨file, concerns⟩ := concerns d among
  obtain ⟨l, lies, rfl⟩ := Option.map_eq_some_iff.1 concerns.file
  simp only [line, lies, Option.some.injEq, exists_eq_left', forall_eq']
  exact length_lines_line_iff concerns line

/-! ## What is emitted -/

variable {encode : Payload → List UInt8} {files : FileSystem} {front : FrontEnd}
  {optimize : Int} {name : LibraryName} {units : List SourceUnit} {references : List String}

/-- What emitting says lies in the source of a unit or in a reference. -/
theorem concerns_of_emitLibrary {e : Emission} (parsed : ∀ u ∈ units, u.IsParsed)
    (emitted : (emitLibrary encode files front optimize name units references ()).result = .ok e) :
    ∀ d ∈ e.diagnostics, ∃ file ∈ units.map (·.path) ++ references, Concerns d file Code.all := by
  rw [diagnostics_emitLibrary emitted, List.forall_mem_append]
  constructor
  · refine forall_mem_inTurn (fun u hu earlier d among => ?_) []
    refine ⟨u.path, List.mem_append_left _ (List.mem_map_of_mem hu), ?_⟩
    rcases List.mem_append.1 among with ofUnit | clash
    · exact (concerns_of_unit (parsed u hu) earlier d ofUnit).known (by decide)
    · exact (concerns_of_clash (Option.mem_toList.1 clash)).known (by decide)
  · intro d among
    obtain ⟨r, hr, complains⟩ := List.mem_filterMap.1 among
    exact ⟨r, List.mem_append_right _ hr, (concerns_of_reference complains).known (by decide)⟩

/-- Whatever parsing and emitting say is shown as a single line exactly if the source or the
reference in which it lies has a name that is one, and there are as many lines in the result of a
failure as diagnostics exactly if this holds of all that have one. -/
theorem emission_lines (files : FileSystem) (front : FrontEnd) (optimize : Int) :
    (∀ path options u,
      ((scripts files front optimize).parse path options ()).result = .ok u →
        ∀ d ∈ u.diagnostics, ∀ line, d.line? = some line →
          (IsPlain line.toList ↔ IsPlain path.toList)) ∧
      ∀ name units references e, (∀ u ∈ units, u.IsParsed) →
        ((scripts files front optimize).emit name units references ()).result = .ok e →
          (∀ d ∈ e.diagnostics, ∃ l, d.location = some l ∧
            l.file ∈ units.map (·.path) ++ references ∧
            ∀ line, d.line? = some line → (IsPlain line.toList ↔ IsPlain l.file.toList)) ∧
          ∀ (s : Session) (shown : List String), s.name = name → s.units = units →
            s.references = references →
            (Session.compile (scripts files front optimize) s).result = .ok (.failed shown) →
            shown.length = e.diagnostics.length ∧
              ((linesOf shown).length = e.diagnostics.length ↔
                ∀ d ∈ e.diagnostics, ∀ l, d.location = some l → IsPlain l.file.toList) := by
  constructor
  · intro path options u parsed d among line shown
    rw [parse_scripts] at parsed
    have concerns := (concerns_of_parseSource parsed d among).known (by decide)
    exact isPlain_line_iff concerns shown
  · intro name units references e parsed emitted
    have concerns := concerns_of_emitLibrary parsed emitted
    refine ⟨?_, ?_⟩
    · intro d among
      obtain ⟨file, named, concerns⟩ := concerns d among
      obtain ⟨l, lies, rfl⟩ := Option.map_eq_some_iff.1 concerns.file
      exact ⟨l, lies, named, fun line shown => isPlain_line_iff concerns shown⟩
    · rintro s shown rfl rfl rfl failed
      have shows := map_line_of_compile emitted failed
      refine ⟨?_, length_linesOf_shown shows fun d among => ?_⟩
      · have same := congrArg List.length shows
        rwa [List.length_map, List.length_map, eq_comm] at same
      · obtain ⟨file, -, concerns⟩ := concerns d among
        exact ⟨file, concerns⟩

/-- A session with some units and references. -/
def sessionOf (units : List SourceUnit) (references : List String) : Session :=
  { Session.fresh (some "Scripts") none none with units, references }

/-- A unit of which the language says that it cannot be parsed. -/
def refused : SourceUnit :=
  ⟨"one.py", "one", ⟨none, ∅⟩, none,
    [.error Code.syntaxError (some "invalid syntax") ⟨"one.py", 1, 1, 0, 0⟩]⟩

/-- A session that is told of the source alone answers with one line. -/
theorem emission_lines_refused :
    (∀ d ∈ refused.diagnostics, ∀ line, d.line? = some line → IsPlain line.toList) ∧
      ∃ e, ((scripts desk refusing (-1)).emit (some "Scripts") [refused] [] ()).result = .ok e ∧
        (Session.compile (scripts desk refusing (-1)) (sessionOf [refused] [])).result =
          .ok (.failed ["one.py(1,1): error SL0003: invalid syntax"]) ∧
        (linesOf ["one.py(1,1): error SL0003: invalid syntax"]).length = e.diagnostics.length := by
  obtain ⟨ofParsing, ofEmitting⟩ := emission_lines desk refusing (-1)
  have parsed :
      ((scripts desk refusing (-1)).parse "one.py" ⟨none, ∅⟩ ()).result = .ok refused := by
    rw [parse_scripts, parseSource_desk]
    rfl
  have plain : IsPlain "one.py".toList := by decide
  refine ⟨fun d among line shown => (ofParsing _ _ _ parsed d among line shown).2 plain, ?_⟩
  have isParsed : ∀ u ∈ [refused], u.IsParsed :=
    List.forall_mem_singleton.2 ⟨desk, refusing, "one.py", ⟨none, ∅⟩, parsed⟩
  have emitted : ((scripts desk refusing (-1)).emit (some "Scripts") [refused] [] ()).result =
      .ok ⟨false, none, refused.diagnostics⟩ := rfl
  have failed : (Session.compile (scripts desk refusing (-1)) (sessionOf [refused] [])).result =
      .ok (.failed ["one.py(1,1): error SL0003: invalid syntax"]) := by decide +kernel
  obtain ⟨-, counts⟩ := ofEmitting _ _ _ _ isParsed emitted
  refine ⟨_, emitted, failed, (counts _ _ rfl rfl rfl failed).2.2 ?_⟩
  refine List.forall_mem_singleton.2 ?_
  rintro l ⟨⟩
  exact plain

/-- The diagnostic of a reference that is not there and has a line feed in its name. -/
def brokenAbsent : Diagnostic :=
  .error Code.referenceAbsent (some "Metadata file 'gone\n.pyz' could not be found")
    (.ofFile "gone\n.pyz")

def brokenLine : String := "gone\n.pyz: error SL0006: Metadata file 'gone .pyz' could not be found"

/-- The diagnostic of such a reference is shown as two lines. -/
theorem emission_lines_broken :
    ∃ e, ((scripts shelf accepting (-1)).emit (some "Scripts") [] ["gone\n.pyz"] ()).result =
        .ok e ∧
      e.diagnostics = [brokenAbsent] ∧ brokenAbsent.line? = some brokenLine ∧
      ¬ IsPlain brokenLine.toList ∧
      (Session.compile (scripts shelf accepting (-1)) (sessionOf [] ["gone\n.pyz"])).result =
        .ok (.failed [brokenLine]) ∧
      (linesOf [brokenLine]).length = 2 := by
  have status : shelf.status (.ofString "gone\n.pyz") = .ok none :=
    status_shelf (by decide) (by decide) (by decide) (by decide) (by decide)
  have checkable : Checkable shelf "gone\n.pyz" := ⟨none, status, fun _ _ absent => by cases absent⟩
  have complains : ["gone\n.pyz"].filterMap (complaint? shelf) = [brokenAbsent] := by
    simp only [List.filterMap_cons, complaint?, complaintOf, status]
    rfl
  have ofUnits : (emitUnits accepting (-1) [] [] ()).result = .ok ([], []) := rfl
  have emits : ∃ e, ((scripts shelf accepting (-1)).emit (some "Scripts") [] ["gone\n.pyz"]
      ()).result = .ok e ∧ e.diagnostics = [brokenAbsent] ∧ ¬ e.success = true := by
    obtain ⟨e, emitted, said, success⟩ := exists_emission ofUnits
      (List.forall_mem_singleton.2 checkable)
    rw [complains, List.nil_append] at said
    refine ⟨e, emitted, said, ?_⟩
    rw [success, said]
    exact List.cons_ne_nil _ _
  obtain ⟨e, emitted, said, failed⟩ := emits
  have shown : brokenAbsent.line? = some brokenLine := by decide +kernel
  have broken : ¬ IsPlain brokenLine.toList := by decide
  have two : (linesOf [brokenLine]).length = 2 := by decide +kernel
  refine ⟨e, emitted, said, shown, broken, ?_, two⟩
  have answers : (Session.compile (scripts shelf accepting (-1))
      (sessionOf [] ["gone\n.pyz"])).result = Session.resultOf e :=
    Session.result_compile rfl emitted
  rw [answers, Session.resultOf, if_neg failed, said, List.mapM_cons, shown]
  rfl

end Compiler

end PluginBuild
