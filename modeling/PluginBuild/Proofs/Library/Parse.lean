/-
# Proofs.Library.Parse -- a source that cannot be used becomes a diagnostic

Where the language raises nothing but exceptions that are reported, parsing a source ends
with a unit that accounts for it (`SourceUnit.Accounts`): it has a tree, or one error that
says in its code how far the source came (`Compiler.fault?`).  Only a path with a null
character is not accounted for, and its frame is the only one of a source that makes
serving stop (`Compiler.parse_contained`).
-/
import PluginBuild.Proofs.File.Tree
import PluginBuild.Proofs.Session.Serve

namespace PluginBuild

set_option autoImplicit false

open PluginBuild.Wire

/-! ## Exceptions of the language -/

/-- Whether an exception is turned into a diagnostic. -/
def Raised.IsReported (r : Raised) : Prop := r.isSyntax = true ∨ r.isContained = true

/-- Whether every exception of parsing is turned into a diagnostic. -/
def FrontEnd.ParseReported (front : FrontEnd) : Prop :=
  ∀ path text version r, (front.parse path text version).result = .error r → r.IsReported

/-- An error with a code that lies in a file. -/
structure Diagnostic.LiesIn (d : Diagnostic) (file code : String) : Prop where
  code : d.code = code
  file : ∃ l, d.location = some l ∧ l.file = file

namespace Diagnostic

theorem errors_append (as bs : List Diagnostic) : errors (as ++ bs) = errors as ++ errors bs :=
  List.filter_append as bs

theorem isError_error (code : String) (message : Option String) (l : Location) :
    (error code message l).isError = true :=
  show errorSeverity.toList.map Char.toLower == errorSeverity.toList by decide

theorem errors_error (code : String) (message : Option String) (l : Location)
    (ds : List Diagnostic) : errors (error code message l :: ds) =
      error code message l :: errors ds :=
  List.filter_cons_of_pos (isError_error code message l)

theorem liesIn_error (code : String) (message : Option String) (l : Location) :
    (error code message l).LiesIn l.file code := ⟨rfl, l, rfl, rfl⟩

end Diagnostic

open Diagnostic (errors errors_append errors_error)

namespace Compiler

variable {α : Type}

theorem errors_warnings (path : String) (ws : List Warning) :
    errors (ws.map (ofWarning path)) = [] := by
  induction ws with
  | nil => rfl
  | cons w ws ih =>
      have noError : ¬ (ofWarning path w).isError = true :=
        show ¬ (Diagnostic.warningSeverity.toList.map Char.toLower ==
          Diagnostic.errorSeverity.toList) = true by decide
      exact (List.filter_cons_of_neg noError).trans ih

/-- An exception that is reported becomes an error that lies in the file. -/
theorem exists_ofRaised {r : Raised} (reported : r.IsReported) (path code : String) :
    ∃ message l, ofRaised? r path code = some (.error code message l) ∧ l.file = path := by
  unfold ofRaised?
  by_cases isSyntax : r.isSyntax = true
  · rw [if_pos isSyntax]
    exact ⟨_, _, rfl, rfl⟩
  · rw [if_neg isSyntax, if_pos (reported.resolve_left isSyntax)]
    exact ⟨_, _, rfl, rfl⟩

/-- What the language answered is passed on; what it raised becomes the only error. -/
theorem exists_report {reaction : Reaction α}
    (reported : ∀ r, reaction.result = .error r → r.IsReported) (path code : String) :
    ∃ own, report reaction path code = .ok (reaction.result.toOption, own) ∧
      (∀ a, reaction.result = .ok a → errors own = []) ∧
      ∀ r, reaction.result = .error r → ∃ d, errors own = [d] ∧ d.LiesIn path code := by
  obtain ⟨warnings, result⟩ := reaction
  cases result with
  | ok a =>
      refine ⟨_, rfl, ?_, ?_⟩
      · intro _ _
        exact errors_warnings path warnings
      · intro r raised
        cases raised
  | error r =>
      obtain ⟨message, l, diagnosed, rfl⟩ := exists_ofRaised (reported r rfl) path code
      refine ⟨.error code message l :: warnings.map (ofWarning l.file), ?_, ?_, ?_⟩
      · simp only [report, diagnosed]
        rfl
      · intro a answered
        cases answered
      · intro _ _
        refine ⟨_, ?_, Diagnostic.liesIn_error code message l⟩
        rw [errors_error, errors_warnings]

/-- An answer that is passed on is what the language gave, without an error, or nothing, and
then what it raised is the only error. -/
theorem of_report {reaction : Reaction α} {path code : String} {answer : Option α}
    {own : List Diagnostic} (h : report reaction path code = .ok (answer, own)) :
    answer = reaction.result.toOption ∧
      ((answer ≠ none ∧ errors own = []) ∨
        (answer = none ∧ ∃ d, errors own = [d] ∧ d.LiesIn path code)) := by
  have reported : ∀ r, reaction.result = .error r → r.IsReported := by
    intro r raised
    refine Classical.byContradiction fun unreported => ?_
    rw [Raised.IsReported, not_or] at unreported
    simp [report, raised, ofRaised?, unreported] at h
  obtain ⟨own', answered, clean, fails⟩ := exists_report reported path code
  cases answered.symm.trans h
  refine ⟨rfl, ?_⟩
  cases result : reaction.result with
  | ok a => exact .inl ⟨Option.some_ne_none a, clean a result⟩
  | error r => exact .inr ⟨rfl, fails r result⟩

/-! ## Parsing -/

/-- What is wrong with a source, from what reading it came to: the code says whether it
could not be read, its directives were wrong, or the language raised an exception. -/
def faultOf (front : FrontEnd) (path : String) (options : ParseOptions) :
    Except Source.ReadError String → Option String
  | .error _ => some Code.sourceUnreadable
  | .ok text =>
    match Directive.preprocess text options.symbols with
    | .error _ => some Code.directive
    | .ok kept =>
      match (front.parse path kept options.languageVersion).result with
      | .error _ => some Code.syntaxError
      | .ok _ => none

/-- What is wrong with the source at a path, if anything is. -/
def fault? (files : FileSystem) (front : FrontEnd) (path : String) (options : ParseOptions) :
    Option String :=
  faultOf front path options (Source.read files (.ofString path))

end Compiler

/-- What a unit says about its source: it has the options it was parsed with, and it has no
tree exactly if it has an error; there is one at most, it has the code of the fault, and it
lies in the source. -/
structure SourceUnit.Accounts (u : SourceUnit) (files : FileSystem) (front : FrontEnd)
    (path : String) (options : ParseOptions) : Prop where
  settled : u.options = options
  tree : u.tree = none ↔ errors u.diagnostics ≠ []
  codes : (errors u.diagnostics).map (·.code) =
    (Compiler.fault? files front path options).toList
  located : ∀ d ∈ errors u.diagnostics, ∃ l, d.location = some l ∧ l.file = path

/-- Whether a unit has a tree and no error, or no tree and one error, which lies in its
source. -/
def SourceUnit.Speaks (u : SourceUnit) : Prop :=
  (u.tree ≠ none ∧ errors u.diagnostics = []) ∨
    (u.tree = none ∧ ∃ d code, errors u.diagnostics = [d] ∧ d.LiesIn u.path code)

namespace Compiler

variable {files : FileSystem} {front : FrontEnd} {path : String} {options : ParseOptions}

/-- A unit with one error accounts for a source with that fault. -/
theorem accounts_of_fault {u : SourceUnit} {d : Diagnostic} {code : String}
    (settled : u.options = options) (noTree : u.tree = none) (one : errors u.diagnostics = [d])
    (lies : d.LiesIn path code) (fault : fault? files front path options = some code) :
    u.Accounts files front path options where
  settled := settled
  tree := by
    rw [one]
    exact ⟨fun _ => List.cons_ne_nil _ _, fun _ => noTree⟩
  codes := by
    rw [one, fault, List.map_singleton, lies.code]
    rfl
  located := by
    rw [one]
    intro e he
    obtain rfl := List.mem_singleton.1 he
    exact lies.file

/-- A unit with a tree and no error accounts for a source without a fault. -/
theorem accounts_of_tree {u : SourceUnit} {tree : Tree} (settled : u.options = options)
    (hasTree : u.tree = some tree) (clean : errors u.diagnostics = [])
    (noFault : fault? files front path options = none) :
    u.Accounts files front path options where
  settled := settled
  tree := by
    rw [hasTree, clean]
    constructor
    · intro noTree
      cases noTree
    · intro error
      exact absurd rfl error
  codes := by
    rw [clean, noFault]
    rfl
  located := by
    rw [clean]
    exact fun _ hd => absurd hd List.not_mem_nil

theorem parseSource_of_nul (nul : '\x00' ∈ path.toList) :
    parseSource files front path options () = Act.fail .nulInPath () := by
  rw [parseSource, if_pos ((FileSystem.hasNul_ofString path).2 nul)]

/-- A source at a path that a file can have is accounted for. -/
theorem exists_unit (reported : front.ParseReported) (writable : '\x00' ∉ path.toList) :
    ∃ u, (parseSource files front path options ()).result = .ok u ∧ u.path = path ∧
      u.Accounts files front path options := by
  have noNul : ¬ FileSystem.hasNul (.ofString path) = true :=
    fun nul => writable ((FileSystem.hasNul_ofString path).1 nul)
  simp only [parseSource, if_neg noNul]
  cases read : Source.read files (.ofString path) with
  | error e =>
      have fault : fault? files front path options = some Code.sourceUnreadable := by
        simp only [fault?, faultOf, read]
      refine ⟨_, rfl, rfl, accounts_of_fault rfl rfl (errors_error _ _ _ []) ?_ fault⟩
      exact Diagnostic.liesIn_error _ _ _
  | ok text =>
      cases applied : Directive.preprocess text options.symbols with
      | error e =>
          have fault : fault? files front path options = some Code.directive := by
            simp only [fault?, faultOf, read, applied]
          simp only [applied]
          refine ⟨_, rfl, rfl, accounts_of_fault rfl rfl (errors_error _ _ _ []) ?_ fault⟩
          exact Diagnostic.liesIn_error _ _ _
      | ok kept =>
          obtain ⟨own, answer, clean, fails⟩ :=
            exists_report (reported path kept options.languageVersion) path Code.syntaxError
          simp only [applied, Act.result_bind, Act.result_leave, Act.result_ofExcept, answer]
          refine ⟨_, rfl, rfl, ?_⟩
          cases result : (front.parse path kept options.languageVersion).result with
          | ok tree =>
              have noFault : fault? files front path options = none := by
                simp only [fault?, faultOf, read, applied, result]
              exact accounts_of_tree rfl rfl (clean tree result) noFault
          | error r =>
              have fault : fault? files front path options = some Code.syntaxError := by
                simp only [fault?, faultOf, read, applied, result]
              obtain ⟨d, one, lies⟩ := fails r result
              exact accounts_of_fault rfl rfl one lies fault

/-- A unit that parsing gives is named for its path, has the options it was parsed with, and
has a tree or the one error that keeps it from one. -/
theorem of_parseSource {u : SourceUnit}
    (parsed : (parseSource files front path options ()).result = .ok u) :
    u.path = path ∧ u.moduleName = (Path.ofString path).stem ∧ u.options = options ∧
      u.Speaks := by
  by_cases nul : FileSystem.hasNul (.ofString path) = true
  · rw [parseSource, if_pos nul] at parsed
    cases parsed
  · simp only [parseSource, if_neg nul] at parsed
    cases read : Source.read files (.ofString path) with
    | error e =>
        simp only [read, Act.result_pure, Except.ok.injEq] at parsed
        subst parsed
        dsimp only
        refine ⟨rfl, rfl, rfl, .inr ⟨rfl, _, Code.sourceUnreadable, errors_error _ _ _ [], ?_⟩⟩
        exact Diagnostic.liesIn_error _ _ _
    | ok text =>
        cases applied : Directive.preprocess text options.symbols with
        | error e =>
            simp only [read, applied, Act.result_pure, Except.ok.injEq] at parsed
            subst parsed
            dsimp only
            refine ⟨rfl, rfl, rfl, .inr ⟨rfl, _, Code.directive, errors_error _ _ _ [], ?_⟩⟩
            exact Diagnostic.liesIn_error _ _ _
        | ok kept =>
            simp only [read, applied, Act.result_bind, Act.result_leave,
              Act.result_ofExcept] at parsed
            cases answered :
                report (front.parse path kept options.languageVersion) path Code.syntaxError with
            | error e =>
                rw [answered] at parsed
                cases parsed
            | ok answer =>
                obtain ⟨tree, own⟩ := answer
                simp only [answered, Act.result_pure, Except.ok.injEq] at parsed
                subst parsed
                dsimp only
                refine ⟨rfl, rfl, rfl, ?_⟩
                rcases (of_report answered).2 with ⟨present, clean⟩ | ⟨absent, d, one, lies⟩
                · exact .inl ⟨present, clean⟩
                · exact .inr ⟨absent, d, Code.syntaxError, one, lies⟩

end Compiler

/-! ## The frame of a source -/

theorem Session.addSource_eq (c : Compiler) (path : String) (s : Session) :
    (Session.addSource c path s).result =
      (c.parse path s.options ()).result.mapError SessionError.compiler := by
  simp only [Session.addSource, Act.result_bind, Act.result_get, Act.state_get,
    Act.result_leave, Act.state_leave, Act.result_free, Act.result_mapError]
  cases (c.parse path s.options ()).result <;> rfl

namespace Connection

variable {compiler : Compiler} {c : Connection} {path : String} {rest : List UInt8}

/-- Serving the frame of a source goes on where parsing gives a unit, and otherwise stops
with what parsing raised. -/
theorem step_of_source (short : ShortText path)
    (left : c.input.rest = (Frame.mk .addSource [path]).bytes ++ rest) :
    (step compiler c).result =
      match (compiler.parse path c.session.options ()).result with
      | .ok _ => .ok true
      | .error e =>
        let stopped := ServeError.session (.compiler e)
        .error (if stopped.isEndOfInput then .truncatedFrame .addSource stopped.message
          else stopped) := by
  have code := Reader.takes_action .addSource ([path].flatMap stringBytes ++ rest)
  rw [← List.append_assoc] at code
  rw [Frame.bytes] at left
  rw [← left] at code
  obtain ⟨between, behind, readCode⟩ := exists_read code
  obtain ⟨input, -, readPath⟩ :=
    exists_read_string (c := { c with input := between }) short behind
  have added := Session.addSource_eq compiler path c.session
  simp only [step, Act.result_bind, readCode, mapError_ok, Act.result_log, Act.state_log, dispatch,
    Act.result_handle, apply, readPath, result_act, added]
  cases (compiler.parse path c.session.options ()).result <;> rfl

end Connection

namespace Compiler

@[simp] theorem parse_scripts (files : FileSystem) (front : FrontEnd) (optimize : Int) :
    (scripts files front optimize).parse = parseSource files front := by
  rw [scripts, scriptsIn]

/-- Parsing a source ends with a unit that accounts for it, unless the path has a null
character, and its frame stops serving only then. -/
theorem parse_contained {front : FrontEnd} (reported : front.ParseReported) (files : FileSystem)
    (optimize : Int) (path : String) (options : ParseOptions) :
    ('\x00' ∉ path.toList →
        ∃ u, ((scripts files front optimize).parse path options ()).result = .ok u ∧
          u.path = path ∧ u.Accounts files front path options) ∧
      ('\x00' ∈ path.toList →
        ((scripts files front optimize).parse path options ()).result = .error .nulInPath) ∧
      ∀ (c : Connection) (rest : List UInt8), ShortText path →
        c.input.rest = (Frame.mk .addSource [path]).bytes ++ rest →
        ((c.step (scripts files front optimize)).result = .ok true ↔ '\x00' ∉ path.toList) := by
  rw [parse_scripts]
  have refuses : ∀ options : ParseOptions, '\x00' ∈ path.toList →
      (parseSource files front path options ()).result = .error .nulInPath := by
    intro options nul
    rw [parseSource_of_nul nul, Act.result_fail]
  refine ⟨exists_unit reported, refuses options, ?_⟩
  intro c rest short left
  rw [Connection.step_of_source short left, parse_scripts]
  constructor
  · intro goesOn nul
    rw [refuses _ nul] at goesOn
    cases goesOn
  · intro writable
    have parses : ∃ u, (parseSource files front path c.session.options ()).result = .ok u ∧
        u.path = path ∧ u.Accounts files front path c.session.options :=
      exists_unit reported writable
    obtain ⟨u, parsed, -⟩ := parses
    rw [parsed]

/-- A language in which nothing can be written. -/
def refusing : FrontEnd where
  parse _ _ _ := ⟨[], .error ⟨"SyntaxError", some "invalid syntax", some 1, some 1, none, none⟩⟩
  compile _ _ _ := ⟨[], .error (.plain "MemoryError" none)⟩

theorem parseReported_refusing : refusing.ParseReported := by
  intro path text version r raised
  cases raised
  exact .inl (by decide)

/-- A session that has been told to add a source. -/
def addingSource (path : String) : Connection where
  session := Session.fresh (some "Scripts") none none
  input := Pipe.ofBytes (Frame.mk .addSource [path]).bytes 1
  output := []

theorem rest_addingSource (path : String) :
    (addingSource path).input.rest = (Frame.mk .addSource [path]).bytes ++ [] :=
  (List.append_nil _).symm

theorem parse_contained_refusing :
    refusing.ParseReported ∧ ShortText "a.py" ∧ '\x00' ∉ "a.py".toList ∧
      (∃ u, ((scripts ⟨.dir [], []⟩ refusing (-1)).parse "a.py" ⟨none, ∅⟩ ()).result = .ok u ∧
        u.path = "a.py" ∧ u.Accounts ⟨.dir [], []⟩ refusing "a.py" ⟨none, ∅⟩) ∧
      ((addingSource "a.py").step (scripts ⟨.dir [], []⟩ refusing (-1))).result = .ok true := by
  obtain ⟨parsed, -, served⟩ :=
    parse_contained parseReported_refusing ⟨.dir [], []⟩ (-1) "a.py" ⟨none, ∅⟩
  have short : ShortText "a.py" := by decide
  have writable : '\x00' ∉ "a.py".toList := by decide
  exact ⟨parseReported_refusing, short, writable, parsed writable,
    (served (addingSource "a.py") [] short (rest_addingSource _)).2 writable⟩

/-- A null character in its path makes a source stop the helper. -/
theorem parse_nul_raises :
    refusing.ParseReported ∧
      ¬ (∃ u, ((scripts ⟨.dir [], []⟩ refusing (-1)).parse "a\x00b" ⟨none, ∅⟩ ()).result = .ok u) ∧
      ((addingSource "a\x00b").step (scripts ⟨.dir [], []⟩ refusing (-1))).result =
        .error (.session (.compiler .nulInPath)) := by
  have raised : ∀ options,
      (parseSource ⟨.dir [], []⟩ refusing "a\x00b" options ()).result = .error .nulInPath := by
    intro options
    rw [parseSource_of_nul (by decide), Act.result_fail]
  refine ⟨parseReported_refusing, ?_, ?_⟩
  · rintro ⟨u, parsed⟩
    rw [parse_scripts, raised] at parsed
    cases parsed
  · have short : ShortText "a\x00b" := by decide
    rw [Connection.step_of_source short (rest_addingSource _), parse_scripts, raised]
    rfl

end Compiler

end PluginBuild
