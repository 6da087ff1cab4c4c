/-
# Proofs.Library.Order -- the order in which a library is spoken of

Diagnostics of three kinds are emitted: those of the units, those of the references, and those of
the library as a whole, which say that a module name is taken (`clash?`).  They are documented to
stand in this order (`documented`).  Emitting goes through the units once, and says that a name is
taken where it comes to the unit that has it, in front of what the units behind it and the
references have to say (`inTurn`).  So the documented order is kept where nothing but other
clashes follows a clash (`ClashesLast`), and only there, since every diagnostic lies in a
file with a code of its kind (`Concerns`), and what a unit that was parsed says does not sound
like a clash.
-/
import PluginBuild.Proofs.Library.Obstacle
import PluginBuild.Proofs.Session.Replay

namespace PluginBuild

set_option autoImplicit false

namespace Compiler

variable {encode : Payload → List UInt8} {files : FileSystem} {front : FrontEnd}
  {optimize : Int} {name : LibraryName} {earlier units : List SourceUnit}
  {references : List String} {taken : List (String × String)}

/-! ## What each has to say -/

/-- What the language has to say of a source: the exception it raised, and then its warnings. -/
def remarks {α : Type} (reaction : Reaction α) (path code : String) : List Diagnostic :=
  (match reaction.result with
    | .ok _ => []
    | .error r => (ofRaised? r path code).toList) ++ reaction.warnings.map (ofWarning path)

/-- The diagnostics of a unit behind earlier ones: those of parsing it, and those of compiling it
if its module name is free. -/
def ofUnit (front : FrontEnd) (optimize : Int) (earlier : List SourceUnit) (u : SourceUnit) :
    List Diagnostic :=
  u.diagnostics ++
    match u.tree, holder? earlier u.moduleName with
    | some tree, none => remarks (front.compile tree u.path optimize) u.path Code.compilation
    | _, _ => []

/-- The diagnostic of the library for a unit behind earlier ones, if its module name is taken. -/
def clash? (earlier : List SourceUnit) (u : SourceUnit) : Option Diagnostic :=
  if u.tree.isSome then (holder? earlier u.moduleName).map (duplicateOf u) else none

/-- What there is to say of some units, of each behind those in front of it. -/
def inTurn (say : List SourceUnit → SourceUnit → List Diagnostic) (earlier : List SourceUnit) :
    List SourceUnit → List Diagnostic
  | [] => []
  | u :: units => say earlier u ++ inTurn say (earlier ++ [u]) units

/-- What emitting says when it comes to a unit. -/
def ofUnitAndClash (front : FrontEnd) (optimize : Int) (earlier : List SourceUnit)
    (u : SourceUnit) : List Diagnostic :=
  ofUnit front optimize earlier u ++ (clash? earlier u).toList

def clashes (earlier units : List SourceUnit) : List Diagnostic :=
  inTurn (fun earlier u => (clash? earlier u).toList) earlier units

/-- The diagnostics in the order in which they are documented: those of the units, then those of
the references, then those of the library. -/
def documented (files : FileSystem) (front : FrontEnd) (optimize : Int) (units : List SourceUnit)
    (references : List String) : List Diagnostic :=
  inTurn (ofUnit front optimize) [] units ++ references.filterMap (complaint? files) ++
    clashes [] units

/-- Whether nothing but other clashes follows a clash, in what there is to say of units and in the
`others` behind it. -/
def ClashesLast (front : FrontEnd) (optimize : Int) (others : List Diagnostic)
    (earlier : List SourceUnit) : List SourceUnit → Prop
  | [] => True
  | u :: units =>
    (clash? earlier u ≠ none →
      inTurn (ofUnit front optimize) (earlier ++ [u]) units = [] ∧ others = []) ∧
    ClashesLast front optimize others (earlier ++ [u]) units

/-! ## What is emitted -/

theorem remarks_of_report {α : Type} {reaction : Reaction α} {path code : String}
    {answer : Option α} {own : List Diagnostic}
    (h : report reaction path code = .ok (answer, own)) : own = remarks reaction path code := by
  unfold report at h
  unfold remarks
  cases result : reaction.result with
  | ok a =>
      rw [result] at h
      cases h
      rfl
  | error r =>
      rw [result] at h
      cases diagnosed : ofRaised? r path code with
      | none =>
          simp only [diagnosed] at h
          cases h
      | some d =>
          simp only [diagnosed] at h
          cases h
          simp only [diagnosed, Option.toList_some, List.singleton_append]

theorem Treats.said {u : SourceUnit} {own : List Diagnostic} {made : List Module}
    (treats : Treats front optimize earlier u own made) :
    u.diagnostics ++ own = ofUnitAndClash front optimize earlier u := by
  rw [ofUnitAndClash, ofUnit, clash?]
  cases treats with
  | unparsed noTree => simp [noTree]
  | taken hasTree holds => simp [hasTree, holds]
  | compiled hasTree free answered => simp [hasTree, free, remarks_of_report answered]

/-- The units have their say in turn, each with the clash that it makes. -/
theorem diagnostics_emitUnits {ds : List Diagnostic} {ms : List Module}
    (agrees : ∀ name, taken.lookup name = holder? earlier name)
    (emitted : (emitUnits front optimize taken units ()).result = .ok (ds, ms)) :
    ds = inTurn (ofUnitAndClash front optimize) earlier units := by
  induction units generalizing taken earlier ds ms with
  | nil =>
      cases emitted
      rfl
  | cons u units ih =>
      obtain ⟨own, made, taken', ds', ms', treats, agrees', rest, rfl, -⟩ :=
        treats_of_emitUnits agrees emitted
      rw [inTurn, ← treats.said, ih agrees' rest]

theorem diagnostics_emitLibrary {e : Emission}
    (emitted : (emitLibrary encode files front optimize name units references ()).result = .ok e) :
    e.diagnostics = inTurn (ofUnitAndClash front optimize) [] units ++
      references.filterMap (complaint? files) := by
  obtain ⟨ofUnits, modules, unitsDone, said, -⟩ := of_emitLibrary emitted
  have unused : ∀ name, ([] : List (String × String)).lookup name = holder? [] name := fun _ => rfl
  rw [said, diagnostics_emitUnits unused unitsDone]

/-! ## What is documented -/

/-- Clashes may be spoken of apart. -/
theorem inTurn_perm (earlier units : List SourceUnit) :
    (inTurn (ofUnitAndClash front optimize) earlier units).Perm
      (inTurn (ofUnit front optimize) earlier units ++ clashes earlier units) := by
  induction units generalizing earlier with
  | nil => exact .refl _
  | cons u units ih =>
      rw [inTurn, ofUnitAndClash, inTurn, clashes, inTurn, ← clashes, List.append_assoc,
        List.append_assoc]
      apply List.Perm.append_left
      have behind := (ih (earlier ++ [u])).append_left (clash? earlier u).toList
      refine behind.trans ?_
      rw [← List.append_assoc, ← List.append_assoc]
      exact List.perm_append_comm.append_right _

/-- Nothing is left out or said twice. -/
theorem perm_documented (units : List SourceUnit) (references : List String) :
    (inTurn (ofUnitAndClash front optimize) [] units ++
      references.filterMap (complaint? files)).Perm
        (documented files front optimize units references) := by
  refine ((inTurn_perm [] units).append_right _).trans ?_
  rw [documented, List.append_assoc, List.append_assoc]
  exact .append_left _ List.perm_append_comm

/-- Where nothing but other clashes follows a clash, the order is the documented one. -/
theorem inTurn_of_clashesLast {others : List Diagnostic}
    (last : ClashesLast front optimize others earlier units) :
    inTurn (ofUnitAndClash front optimize) earlier units ++ others =
      inTurn (ofUnit front optimize) earlier units ++ others ++ clashes earlier units := by
  induction units generalizing earlier with
  | nil => simp [inTurn, clashes]
  | cons u units ih =>
      obtain ⟨first, last⟩ := last
      have behind := ih last
      rw [inTurn, ofUnitAndClash, inTurn, clashes, inTurn, ← clashes]
      cases clash : clash? earlier u with
      | none =>
          rw [Option.toList_none, List.append_nil, List.append_assoc, behind]
          simp only [List.append_assoc, List.nil_append]
      | some d =>
          obtain ⟨nothing, undiagnosed⟩ := first (by rw [clash]; exact Option.some_ne_none d)
          rw [nothing, undiagnosed, List.append_nil, List.nil_append] at behind
          rw [nothing, undiagnosed, List.append_nil, behind]
          simp only [List.append_assoc, List.append_nil, List.nil_append]

/-! ## What a diagnostic is about -/

/-- Whether a diagnostic is an error or a warning that lies in a file and has one of some codes. -/
structure Concerns (d : Diagnostic) (file : String) (codes : List String) : Prop where
  severity : d.severity ∈ [Diagnostic.errorSeverity, Diagnostic.warningSeverity]
  code : d.code ∈ codes
  file : d.location.map (·.file) = some file

/-- The codes of what there is to say of a source. -/
def Code.ofSources : List String :=
  [Code.sourceUnreadable, Code.directive, Code.syntaxError, Code.compilation, Code.languageWarning]

/-- The codes of what there is to say against a reference. -/
def Code.ofReferences : List String := [Code.referenceAbsent, Code.referenceInvalid]

theorem concerns_error {code : String} {codes : List String} (among : code ∈ codes)
    (message : Option String) (l : Location) :
    Concerns (.error code message l) l.file codes :=
  ⟨List.mem_cons_self, among, rfl⟩

theorem concerns_remarks {α : Type} {code : String} (among : code ∈ Code.ofSources)
    (reaction : Reaction α) (path : String) :
    ∀ d ∈ remarks reaction path code, Concerns d path Code.ofSources := by
  intro d said
  rcases List.mem_append.1 said with raised | warned
  · cases result : reaction.result with
    | ok a =>
        rw [result] at raised
        cases raised
    | error r =>
        rw [result] at raised
        have diagnosed := Option.mem_toList.1 raised
        unfold ofRaised? at diagnosed
        split at diagnosed
        · cases diagnosed
          exact concerns_error among _ _
        · split at diagnosed
          · cases diagnosed
            exact concerns_error among _ _
          · cases diagnosed
  · obtain ⟨w, -, rfl⟩ := List.mem_map.1 warned
    have warns : Code.languageWarning ∈ Code.ofSources := by decide
    exact ⟨List.mem_cons_of_mem _ List.mem_cons_self, warns, rfl⟩

/-- What parsing a source says lies in it. -/
theorem concerns_of_parseSource {path : String} {options : ParseOptions} {u : SourceUnit}
    (parsed : (parseSource files front path options ()).result = .ok u) :
    ∀ d ∈ u.diagnostics, Concerns d path Code.ofSources := by
  by_cases nul : FileSystem.hasNul (.ofString path) = true
  · rw [parseSource, if_pos nul] at parsed
    cases parsed
  · simp only [parseSource, if_neg nul] at parsed
    cases read : Source.read files (.ofString path) with
    | error e =>
        simp only [read] at parsed
        cases parsed
        exact List.forall_mem_singleton.2 (concerns_error (by decide) _ _)
    | ok text =>
        cases applied : Directive.preprocess text options.symbols with
        | error e =>
            simp only [read, applied] at parsed
            cases parsed
            exact List.forall_mem_singleton.2 (concerns_error (by decide) _ _)
        | ok kept =>
            simp only [read, applied] at parsed
            obtain ⟨⟨⟩, -, parsed⟩ := Act.result_bind_eq_ok.1 parsed
            obtain ⟨⟨tree, own⟩, answered, parsed⟩ := Act.result_bind_eq_ok.1 parsed
            cases parsed
            show ∀ d ∈ own, Concerns d path Code.ofSources
            rw [remarks_of_report answered]
            exact concerns_remarks (by decide) _ _

/-- What emitting says of a unit that was parsed lies in its source. -/
theorem concerns_of_unit {u : SourceUnit} (parsed : u.IsParsed) (earlier : List SourceUnit) :
    ∀ d ∈ ofUnit front optimize earlier u, Concerns d u.path Code.ofSources := by
  intro d among
  rcases List.mem_append.1 among with ofParsing | ofCompiling
  · obtain ⟨files, front, path, options, parsed⟩ := parsed
    rw [(of_parseSource parsed).1]
    exact concerns_of_parseSource parsed d ofParsing
  · split at ofCompiling
    · exact concerns_remarks (by decide) _ _ d ofCompiling
    · cases ofCompiling

theorem concerns_of_clash {u : SourceUnit} {d : Diagnostic} (clash : clash? earlier u = some d) :
    Concerns d u.path [Code.duplicateModule] := by
  unfold clash? at clash
  split at clash
  · obtain ⟨holder, -, rfl⟩ := Option.map_eq_some_iff.1 clash
    exact concerns_error List.mem_cons_self _ _
  · cases clash

theorem concerns_of_reference {reference : String} {d : Diagnostic}
    (complains : complaint? files reference = some d) : Concerns d reference Code.ofReferences := by
  unfold complaint? complaintOf at complains
  split at complains
  · split at complains
    · cases complains
    · cases complains
      exact concerns_error (by decide) _ _
  · cases complains
    exact concerns_error (by decide) _ _

/-! ## How a clash sounds -/

/-- Whether a diagnostic has the code of a clash. -/
def SoundsLikeClash (d : Diagnostic) : Prop := d.code = Code.duplicateModule

theorem Concerns.not_soundsLikeClash {d : Diagnostic} {file : String} {codes : List String}
    (h : Concerns d file codes) (other : Code.duplicateModule ∉ codes) : ¬ SoundsLikeClash d := by
  intro sounds
  rw [SoundsLikeClash] at sounds
  exact other (sounds ▸ h.code)

/-- A unit that was parsed says nothing that sounds like a clash. -/
theorem not_soundsLikeClash_of_unit {u : SourceUnit} (parsed : u.IsParsed)
    (earlier : List SourceUnit) : ∀ d ∈ ofUnit front optimize earlier u, ¬ SoundsLikeClash d :=
  fun d among => (concerns_of_unit parsed earlier d among).not_soundsLikeClash (by decide)

theorem not_soundsLikeClash_of_reference {reference : String} {d : Diagnostic}
    (complains : complaint? files reference = some d) : ¬ SoundsLikeClash d :=
  (concerns_of_reference complains).not_soundsLikeClash (by decide)

theorem soundsLikeClash_of_clash {u : SourceUnit} {d : Diagnostic}
    (clash : clash? earlier u = some d) : SoundsLikeClash d :=
  List.mem_singleton.1 (concerns_of_clash clash).code

/-- What is said in turn is said of a unit behind those in front of it. -/
theorem mem_inTurn_iff {d : Diagnostic} {say : List SourceUnit → SourceUnit → List Diagnostic} :
    d ∈ inTurn say earlier units ↔
      ∃ before u after, units = before ++ u :: after ∧ d ∈ say (earlier ++ before) u := by
  induction units generalizing earlier with
  | nil => simp [inTurn]
  | cons u units ih =>
      rw [inTurn, List.mem_append, ih]
      constructor
      · rintro (here | ⟨before, v, after, rfl, behind⟩)
        · exact ⟨[], u, units, rfl, by rwa [List.append_nil]⟩
        · exact ⟨u :: before, v, after, rfl, by rwa [List.append_cons]⟩
      · rintro ⟨before, v, after, same, said⟩
        cases before with
        | nil =>
            obtain ⟨rfl, rfl⟩ := List.cons.inj same
            exact .inl (by rwa [List.append_nil] at said)
        | cons w before =>
            obtain ⟨rfl, rfl⟩ := List.cons.inj same
            exact .inr ⟨before, v, after, rfl, by rwa [List.append_cons] at said⟩

theorem forall_mem_inTurn {p : Diagnostic → Prop}
    {say : List SourceUnit → SourceUnit → List Diagnostic}
    (h : ∀ u ∈ units, ∀ earlier, ∀ d ∈ say earlier u, p d) (earlier : List SourceUnit) :
    ∀ d ∈ inTurn say earlier units, p d := by
  intro d among
  obtain ⟨before, u, after, rfl, said⟩ := mem_inTurn_iff.1 among
  exact h u (List.mem_append_right _ List.mem_cons_self) _ d said

/-- What is documented has nothing but clashes behind a clash. -/
theorem pairwise_documented (parsed : ∀ u ∈ units, u.IsParsed) :
    (documented files front optimize units references).Pairwise
      fun a b => SoundsLikeClash a → SoundsLikeClash b := by
  have quiet : ∀ d ∈ inTurn (ofUnit front optimize) [] units ++
      references.filterMap (complaint? files), ¬ SoundsLikeClash d := by
    intro d among
    rcases List.mem_append.1 among with ofUnits | ofReferences
    · exact forall_mem_inTurn (fun u hu => not_soundsLikeClash_of_unit (parsed u hu)) [] d ofUnits
    · obtain ⟨r, -, complains⟩ := List.mem_filterMap.1 ofReferences
      exact not_soundsLikeClash_of_reference complains
  have loud : ∀ d ∈ clashes [] units, SoundsLikeClash d := by
    refine forall_mem_inTurn (fun u _ earlier d among => ?_) []
    exact soundsLikeClash_of_clash (Option.mem_toList.1 among)
  rw [documented, List.pairwise_append]
  refine ⟨?_, ?_, ?_⟩
  · exact List.pairwise_of_forall_mem_list fun a ha b _ sounds => absurd sounds (quiet a ha)
  · exact List.pairwise_of_forall_mem_list fun a _ b hb _ => loud b hb
  · exact fun a ha b _ sounds => absurd sounds (quiet a ha)

/-- Where nothing but clashes stands behind a clash, there is nothing else to say there. -/
theorem clashesLast_of_pairwise {others : List Diagnostic} (parsed : ∀ u ∈ units, u.IsParsed)
    (quiet : ∀ d ∈ others, ¬ SoundsLikeClash d)
    (ordered : (inTurn (ofUnitAndClash front optimize) earlier units ++ others).Pairwise
      fun a b => SoundsLikeClash a → SoundsLikeClash b) :
    ClashesLast front optimize others earlier units := by
  induction units generalizing earlier with
  | nil => trivial
  | cons u units ih =>
      obtain ⟨-, parsed⟩ := List.forall_mem_cons.1 parsed
      rw [inTurn, ofUnitAndClash, List.append_assoc, List.append_assoc] at ordered
      obtain ⟨-, ordered, -⟩ := List.pairwise_append.1 ordered
      obtain ⟨-, ordered', behind⟩ := List.pairwise_append.1 ordered
      refine ⟨?_, ih parsed ordered'⟩
      intro clashing
      obtain ⟨d, clash⟩ := Option.ne_none_iff_exists'.1 clashing
      have loud : ∀ b ∈ inTurn (ofUnitAndClash front optimize) (earlier ++ [u]) units ++ others,
          SoundsLikeClash b := fun b hb =>
        behind d (Option.mem_toList.2 clash) b hb (soundsLikeClash_of_clash clash)
      obtain ⟨loudUnits, loudOthers⟩ := List.forall_mem_append.1 loud
      have quietUnits : ∀ b ∈ inTurn (ofUnit front optimize) (earlier ++ [u]) units,
          ¬ SoundsLikeClash b :=
        forall_mem_inTurn (fun v hv => not_soundsLikeClash_of_unit (parsed v hv)) _
      refine ⟨List.eq_nil_iff_forall_not_mem.2 fun b hb => quietUnits b hb (loudUnits b ?_),
        List.eq_nil_iff_forall_not_mem.2 fun b hb => quiet b hb (loudOthers b hb)⟩
      exact (inTurn_perm _ units).symm.subset (List.mem_append_left _ hb)

/-! ## The lines of a result -/

theorem map_line_of_resultOf {e : Emission} {lines : List String}
    (failed : Session.resultOf e = .ok (.failed lines)) :
    e.diagnostics.map Diagnostic.line? = lines.map some := by
  unfold Session.resultOf at failed
  split at failed
  · cases failed
  · cases shown : e.diagnostics.mapM Diagnostic.line? with
    | none =>
        rw [shown] at failed
        cases failed
    | some lines' =>
        rw [shown] at failed
        cases failed
        exact mapM_eq_some_iff.1 shown

/-- The lines of a failed result show the diagnostics of the emission that it stands for. -/
theorem map_line_of_compile {c : Compiler} {s : Session} {e : Emission} {lines : List String}
    (emitted : (c.emit s.name s.units s.references ()).result = .ok e)
    (failed : (Session.compile c s).result = .ok (.failed lines)) :
    e.diagnostics.map Diagnostic.line? = lines.map some := by
  cases again : s.compiled with
  | true =>
      rw [Session.compile_again again] at failed
      cases failed
  | false =>
      rw [Session.result_compile again emitted] at failed
      exact map_line_of_resultOf failed

/-- The units have their say in turn, each behind the clash of the one in front of it, and then
the references.  These are the documented diagnostics, each as often as documented, and they
stand in the documented order if nothing but clashes follows a clash; for units that were parsed,
only then.  The lines of a failed result show them one by one. -/
theorem emission_order {e : Emission}
    (emitted : ((scripts files front optimize).emit name units references ()).result = .ok e) :
    e.diagnostics = inTurn (ofUnitAndClash front optimize) [] units ++
        references.filterMap (complaint? files) ∧
      e.diagnostics.Perm (documented files front optimize units references) ∧
      (ClashesLast front optimize (references.filterMap (complaint? files)) [] units →
        e.diagnostics = documented files front optimize units references) ∧
      ((∀ u ∈ units, u.IsParsed) →
        e.diagnostics = documented files front optimize units references →
        ClashesLast front optimize (references.filterMap (complaint? files)) [] units) ∧
      ∀ (s : Session) (lines : List String), s.name = name → s.units = units →
        s.references = references →
        (Session.compile (scripts files front optimize) s).result = .ok (.failed lines) →
        e.diagnostics.map Diagnostic.line? = lines.map some := by
  have said := diagnostics_emitLibrary emitted
  refine ⟨said, ?_, ?_, ?_, ?_⟩
  · rw [said]
    exact perm_documented units references
  · intro last
    rw [said, inTurn_of_clashesLast last, documented]
  · intro parsed same
    have ordered : (documented files front optimize units references).Pairwise
        fun a b => SoundsLikeClash a → SoundsLikeClash b := pairwise_documented parsed
    rw [← same, said] at ordered
    refine clashesLast_of_pairwise parsed ?_ ordered
    intro d among
    obtain ⟨r, -, complains⟩ := List.mem_filterMap.1 among
    exact not_soundsLikeClash_of_reference complains
  · rintro s lines rfl rfl rfl failed
    exact map_line_of_compile emitted failed

/-- Where a source is added twice and nothing follows, the order is the documented one. -/
theorem emission_order_twice : ∃ e,
    ((scripts desk accepting (-1)).emit (some "Scripts") [blank, blank] [] ()).result = .ok e ∧
      e.diagnostics = documented desk accepting (-1) [blank, blank] [] ∧
      e.diagnostics = [duplicateOf blank "one.py"] := by
  have ofUnits : (emitUnits accepting (-1) [] [blank, blank] ()).result = .ok (_, _) := rfl
  have emits : ∃ e, ((scripts desk accepting (-1)).emit (some "Scripts") [blank, blank] []
      ()).result = .ok e := by
    obtain ⟨e, emitted, -⟩ := exists_emission ofUnits (List.forall_mem_nil (Checkable desk))
    exact ⟨e, emitted⟩
  obtain ⟨e, emitted⟩ := emits
  obtain ⟨said, -, orders, -⟩ := emission_order emitted
  have last : ClashesLast accepting (-1) ([].filterMap (complaint? desk)) [] [blank, blank] :=
    ⟨fun clash => absurd rfl clash, fun _ => ⟨rfl, rfl⟩, trivial⟩
  exact ⟨e, emitted, orders last, said⟩

/-- A clash is spoken of in front of a reference that is not there. -/
theorem emission_order_gone : (∀ u ∈ [blank, blank], u.IsParsed) ∧ ∃ e,
    ((scripts shelf accepting (-1)).emit (some "Scripts") [blank, blank] ["gone.pyz"] ()).result =
        .ok e ∧
      e.diagnostics ≠ documented shelf accepting (-1) [blank, blank] ["gone.pyz"] := by
  have ofUnits : (emitUnits accepting (-1) [] [blank, blank] ()).result = .ok (_, _) := rfl
  have checkable : Checkable shelf "gone.pyz" :=
    ⟨none, status_gone, fun _ _ absent => by cases absent⟩
  have emits : ∃ e, ((scripts shelf accepting (-1)).emit (some "Scripts") [blank, blank]
      ["gone.pyz"] ()).result = .ok e := by
    obtain ⟨e, emitted, -⟩ := exists_emission ofUnits (List.forall_mem_singleton.2 checkable)
    exact ⟨e, emitted⟩
  obtain ⟨e, emitted⟩ := emits
  have complains : ["gone.pyz"].filterMap (complaint? shelf) = [.error Code.referenceAbsent
      (some "Metadata file 'gone.pyz' could not be found") (.ofFile "gone.pyz")] := by
    simp only [List.filterMap_cons, complaint?, complaintOf, status_gone]
    rfl
  have said := diagnostics_emitLibrary emitted
  rw [complains] at said
  refine ⟨by simp [isParsed_blank], e, emitted, ?_⟩
  rw [said, documented, complains]
  decide

end Compiler

end PluginBuild
