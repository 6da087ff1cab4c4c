/-
# Proofs.Directive.Outline -- what is wrong with a text does not depend on the symbols

Of the state behind some lines, only the outline decides whether the next directive is
refused: the line of every open `#if`, and whether its `#else` has been read.  A directive
takes outlines to outlines (`nest`), whatever is defined and whichever branches are kept
(`nest_opened`), so lines can be checked without any symbols (`check`).

Preprocessing fails exactly as the check does (`preprocess_eq_error_iff`): with the same error
under all symbols (`preprocess_malformed`), which stands on the line of a directive that is
refused, or of the `#if` that is left open (`exists_offending`).
-/
import PluginBuild.Directive.Preprocess
import PluginBuild.Proofs.Except

namespace PluginBuild.Directive

set_option autoImplicit false

open PluginBuild.Text

/-! ## Outlines -/

/-- An open group, as far as it decides what may follow. -/
structure Opened where
  /-- the line of its `#if` -/
  line : Nat
  /-- whether its `#else` has been read -/
  last : Bool

def Group.opened (g : Group) : Opened := ⟨g.line, g.last⟩

/-- The open groups of a state, the innermost first. -/
def State.opened (st : State) : List Opened := st.groups.map Group.opened

/-- The open groups behind a directive on line `number`. -/
def nest (number : Nat) (line : Line) (outline : List Opened) : Except Fault (List Opened) :=
  match line.keyword, outline with
  | .opening, outline => do
    let _ ← Expr.parse line.argument
    return ⟨number, false⟩ :: outline
  | .alternative, [] => .error .elifOutside
  | .alternative, group :: outer =>
    if group.last then .error .elifOutside
    else do
      let _ ← Expr.parse line.argument
      return group :: outer
  | .fallback, [] => .error .elseOutside
  | .fallback, group :: outer =>
    if group.last then .error .elseOutside else .ok (⟨group.line, true⟩ :: outer)
  | .closing, [] => .error .endifOutside
  | .closing, _ :: outer => .ok outer
  | .define, outline | .undefine, outline => do
    let _ ← State.apply.symbolName line.argument
    return outline

/-- The open groups behind lines of which the first has the number `number`. -/
def nestAll (number : Nat) (outline : List Opened) : List (List Char) → Except Error (List Opened)
  | [] => .ok outline
  | line :: rest =>
    match Line.read? line with
    | none => nestAll (number + 1) outline rest
    | some directive =>
      match nest number directive outline with
      | .error fault => .error ⟨fault, number⟩
      | .ok outline => nestAll (number + 1) outline rest

/-- Whether no group is left open. -/
def ensureClosed : List Opened → Except Error Unit
  | [] => .ok ()
  | group :: _ => .error ⟨.unclosed, group.line⟩

/-- Checks the directives among some lines. -/
def check (ls : List (List Char)) : Except Error Unit := nestAll 1 [] ls >>= ensureClosed

/-! ## Preprocessing checks -/

theorem test_eq (st : State) (condition : List Char) :
    st.test condition = (Expr.parse condition).map fun e => e.holds st.defined := rfl

/-- A directive acts on the outline of a state alone. -/
theorem nest_opened (number : Nat) (line : Line) (st : State) :
    nest number line st.opened = (st.apply number line).map State.opened := by
  obtain ⟨keyword, argument⟩ := line
  obtain ⟨defined, active, groups⟩ := st
  cases keyword with
  | opening =>
      simp only [nest, State.apply, test_eq]
      cases Expr.parse argument <;> rfl
  | alternative =>
      cases groups with
      | nil => rfl
      | cons group groups =>
          obtain ⟨opens, enclosing, taken, last⟩ := group
          cases last with
          | true => rfl
          | false =>
              simp only [nest, State.apply, test_eq]
              cases Expr.parse argument <;> rfl
  | fallback =>
      cases groups with
      | nil => rfl
      | cons group groups =>
          obtain ⟨opens, enclosing, taken, last⟩ := group
          cases last <;> rfl
  | closing => cases groups <;> rfl
  | define | undefine =>
      simp only [nest, State.apply]
      cases State.apply.symbolName argument with
      | error fault => rfl
      | ok name => cases active <;> rfl

theorem map_map_unit {ε : Type} (front : List Char) (x : Except ε (List Char)) :
    ((front ++ ·) <$> x).map (fun _ => ()) = x.map fun _ => () := by
  cases x <;> rfl

/-- Going through lines fails exactly as checking them does. -/
theorem keep_checked (number : Nat) (st : State) (ls : List (List Char)) :
    (keep number st ls).map (fun _ => ()) = nestAll number st.opened ls >>= ensureClosed := by
  induction ls generalizing number st with
  | nil =>
      obtain ⟨defined, active, groups⟩ := st
      cases groups <;> rfl
  | cons line ls ih =>
      rw [keep, nestAll]
      cases Line.read? line with
      | none => exact (map_map_unit _ _).trans (ih (number + 1) st)
      | some d =>
          simp only [nest_opened]
          cases st.apply number d with
          | error fault => rfl
          | ok next => exact (map_map_unit _ _).trans (ih (number + 1) next)

theorem keep_eq_error_iff {defined : SymbolSet} {ls : List (List Char)} {e : Error} :
    keep 1 (.start defined) ls = .error e ↔ check ls = .error e := by
  rw [check, ← show State.opened (.start defined) = [] from rfl, ← keep_checked]
  exact map_eq_error_iff.symm

/-- A text is preprocessed to an error exactly if the check of its lines finds that error. -/
theorem preprocess_eq_error_iff {text : String} {defined : SymbolSet} {e : Error} :
    preprocess text defined = .error e ↔ check (lines text.toList) = .error e := by
  rw [preprocess, map_eq_error_iff]
  exact keep_eq_error_iff

theorem exists_preprocess_iff {text : String} {defined : SymbolSet} :
    (∃ out, preprocess text defined = .ok out) ↔ ∀ e, check (lines text.toList) ≠ .error e := by
  have fails : ∀ e, preprocess text defined = .error e ↔ check (lines text.toList) = .error e :=
    fun _ => preprocess_eq_error_iff
  simp only [ne_eq, ← fails]
  cases preprocess text defined with
  | error e => exact iff_of_false nofun fun clean => clean e rfl
  | ok out => exact iff_of_true ⟨out, rfl⟩ nofun

/-- The symbols that are defined at the start decide what is kept of a text, not whether it is
well formed: an error under some symbols is the error under all others, with its message and
its line. -/
theorem preprocess_malformed (text : String) (defined other : SymbolSet) :
    (∀ e, preprocess text defined = .error e ↔ preprocess text other = .error e) ∧
      ((∃ out, preprocess text defined = .ok out) ↔ ∃ out, preprocess text other = .ok out) := by
  constructor
  · intro e
    rw [preprocess_eq_error_iff, preprocess_eq_error_iff]
  · rw [exists_preprocess_iff, exists_preprocess_iff]

/-! ## The line of an error -/

/-- What a fault is about: a directive that is refused where it stands, or the `#if` of the
innermost group that all lines together leave open. -/
inductive Offends (before : List (List Char)) (line : List Char) (after : List (List Char)) :
    Fault → Prop
  | refused {d : Line} {outline : List Opened} {fault : Fault} (reads : Line.read? line = some d)
      (reached : nestAll 1 [] before = .ok outline)
      (refuses : nest (before.length + 1) d outline = .error fault) : Offends before line after fault
  | unclosed {argument : List Char} {last : Bool} {outer : List Opened}
      (reads : Line.read? line = some ⟨.opening, argument⟩)
      (left : nestAll 1 [] (before ++ line :: after) = .ok (⟨before.length + 1, last⟩ :: outer)) :
      Offends before line after .unclosed

variable {number : Nat} {outline out : List Opened} {ls : List (List Char)}

theorem nestAll_plain {line : List Char} (reads : Line.read? line = none) :
    nestAll number outline (line :: ls) = nestAll (number + 1) outline ls := by
  rw [nestAll, reads]

theorem nestAll_directive {line : List Char} {d : Line} (reads : Line.read? line = some d)
    (nests : nest number d outline = .ok out) :
    nestAll number outline (line :: ls) = nestAll (number + 1) out ls := by
  rw [nestAll, reads]
  simp only [nests]

/-- Whether an error is that of a directive among lines, of which the first has the number
`number`, that is refused behind the lines before it. -/
def IsRefused (number : Nat) (outline : List Opened) (ls : List (List Char)) (e : Error) : Prop :=
  ∃ before line after d reached, ls = before ++ line :: after ∧ Line.read? line = some d ∧
    nestAll number outline before = .ok reached ∧
    nest (before.length + number) d reached = .error e.fault ∧
    e.line = (before.length + number : Nat)

/-- Whether one of some lines, of which the first has the number `number`, is an `#if` on line
`place`. -/
def OpensOn (number : Nat) (ls : List (List Char)) (place : Nat) : Prop :=
  ∃ before line after argument, ls = before ++ line :: after ∧
    Line.read? line = some ⟨.opening, argument⟩ ∧ place = before.length + number

/-- A directive that is refused further down is refused behind one more line. -/
theorem IsRefused.cons {line : List Char} {e : Error} (h : IsRefused (number + 1) out ls e)
    (same : ∀ before, nestAll number outline (line :: before) = nestAll (number + 1) out before) :
    IsRefused number outline (line :: ls) e := by
  obtain ⟨before, line', after, d, reached, rfl, reads, reaches, refuses, stands⟩ := h
  rw [← Nat.add_assoc, Nat.add_right_comm] at refuses stands
  exact ⟨line :: before, line', after, d, reached, rfl, reads, (same before).trans reaches, refuses,
    stands⟩

theorem OpensOn.cons {place : Nat} (h : OpensOn (number + 1) ls place) (line : List Char) :
    OpensOn number (line :: ls) place := by
  obtain ⟨before, line', after, argument, rfl, reads, stands⟩ := h
  rw [← Nat.add_assoc, Nat.add_right_comm] at stands
  exact ⟨line :: before, line', after, argument, rfl, reads, stands⟩

/-- An error on the way is that of a directive that is refused. -/
theorem isRefused_of_nestAll {e : Error} (h : nestAll number outline ls = .error e) :
    IsRefused number outline ls e := by
  induction ls generalizing number outline with
  | nil => cases h
  | cons line ls ih =>
      cases reads : Line.read? line with
      | none =>
          rw [nestAll_plain reads] at h
          exact (ih h).cons fun before => nestAll_plain reads
      | some d =>
          cases nests : nest number d outline with
          | ok out =>
              rw [nestAll_directive reads nests] at h
              exact (ih h).cons fun before => nestAll_directive reads nests
          | error fault =>
              rw [nestAll, reads] at h
              simp only [nests] at h
              cases h
              refine ⟨[], line, ls, d, outline, rfl, reads, rfl, ?_, ?_⟩
              · rw [List.length_nil, Nat.zero_add]
                exact nests
              · rw [List.length_nil, Nat.zero_add]

/-- A directive opens a group on its own line only. -/
theorem line_of_nest {d : Line} (h : nest number d outline = .ok out) {group : Opened}
    (among : group ∈ out) :
    group.line ∈ outline.map Opened.line ∨ d.keyword = .opening ∧ group.line = number := by
  have kept : ∀ {outer : List Opened}, group ∈ outer → group.line ∈ outer.map Opened.line :=
    List.mem_map_of_mem
  obtain ⟨keyword, argument⟩ := d
  cases keyword with
  | opening =>
      obtain ⟨-, -, made⟩ := exists_of_bind_eq_ok h
      cases made
      rcases List.mem_cons.1 among with rfl | among
      · exact .inr ⟨rfl, rfl⟩
      · exact .inl (kept among)
  | alternative =>
      cases outline with
      | nil => cases h
      | cons first outer =>
          simp only [nest] at h
          split at h
          · cases h
          · obtain ⟨-, -, made⟩ := exists_of_bind_eq_ok h
            cases made
            exact .inl (kept among)
  | fallback =>
      cases outline with
      | nil => cases h
      | cons first outer =>
          simp only [nest] at h
          split at h
          · cases h
          · cases h
            rcases List.mem_cons.1 among with rfl | among
            · exact .inl List.mem_cons_self
            · exact .inl (List.mem_cons_of_mem _ (kept among))
  | closing =>
      cases outline with
      | nil => cases h
      | cons first outer =>
          cases h
          exact .inl (List.mem_cons_of_mem _ (kept among))
  | define | undefine =>
      obtain ⟨-, -, made⟩ := exists_of_bind_eq_ok h
      cases made
      exact .inl (kept among)

/-- A group that is left open was open before, or one of the lines has opened it. -/
theorem opensOn_of_nestAll (h : nestAll number outline ls = .ok out) {group : Opened}
    (among : group ∈ out) :
    group.line ∈ outline.map Opened.line ∨ OpensOn number ls group.line := by
  induction ls generalizing number outline with
  | nil =>
      cases h
      exact .inl (List.mem_map_of_mem among)
  | cons line ls ih =>
      cases reads : Line.read? line with
      | none =>
          rw [nestAll_plain reads] at h
          exact (ih h).imp id fun later => later.cons line
      | some d =>
          cases nests : nest number d outline with
          | error fault =>
              rw [nestAll, reads] at h
              simp only [nests] at h
              cases h
          | ok between =>
              rw [nestAll_directive reads nests] at h
              rcases ih h with inside | later
              · obtain ⟨opened, among', same⟩ := List.mem_map.1 inside
                rcases line_of_nest nests among' with before | ⟨opens, here⟩
                · exact .inl (same ▸ before)
                · obtain ⟨keyword, argument⟩ := d
                  cases opens
                  refine .inr ⟨[], line, ls, argument, rfl, reads, ?_⟩
                  rw [← same, here, List.length_nil, Nat.zero_add]
              · exact .inr (later.cons line)

/-- An error stands on the line that it is about. -/
theorem exists_offending {e : Error} (h : check ls = .error e) :
    ∃ before line after, ls = before ++ line :: after ∧ Offends before line after e.fault ∧
      e.line = (before.length + 1 : Nat) := by
  unfold check at h
  cases nests : nestAll 1 [] ls with
  | error e' =>
      rw [nests] at h
      cases h
      obtain ⟨before, line, after, d, reached, rfl, reads, reaches, refuses, stands⟩ :=
        isRefused_of_nestAll nests
      exact ⟨before, line, after, rfl, .refused reads reaches refuses, stands⟩
  | ok out =>
      rw [nests] at h
      cases out with
      | nil => cases h
      | cons group outer =>
          cases h
          rcases opensOn_of_nestAll nests List.mem_cons_self with
            beneath | ⟨before, line, after, argument, rfl, reads, stands⟩
          · cases beneath
          · obtain ⟨opens, last⟩ := group
            cases stands
            exact ⟨before, line, after, rfl, .unclosed reads nests, rfl⟩

end PluginBuild.Directive
