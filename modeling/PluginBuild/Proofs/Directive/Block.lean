/-
# Proofs.Directive.Block -- the meaning of nested groups

`Block` is the nesting that directives describe: plain lines, definitions, and groups with
any number of alternatives, of which only the last may be a fallback.  `Block.keep` says by
recursion on the nesting what is kept of it, with no stack and no flags.

What a directive does where it is accepted is listed once (`State.Accepts`).  So the lines of a
well-formed block are preprocessed to what `Block.keep` says, whatever follows them
(`Block.passes`, and `Block.passes_inactive` where nothing is kept), and lines that are
preprocessed without an error are those of a block (`completes_of_keep`).
-/
import PluginBuild.Directive.Preprocess
import PluginBuild.Proofs.Except

namespace PluginBuild.Directive

set_option autoImplicit false

open PluginBuild.Text

/-! ## Lines -/

/-- Whether a line is the directive of a keyword with a condition. -/
def Line.Tests (keyword : Keyword) (line : List Char) (condition : Expr) : Prop :=
  ∃ argument, Line.read? line = some ⟨keyword, argument⟩ ∧ Expr.parse argument = .ok condition

/-- Whether a line is the directive of a keyword with a symbol, which is no constant. -/
def Line.Names (keyword : Keyword) (line : List Char) (name : String) : Prop :=
  ∃ argument, Line.read? line = some ⟨keyword, argument⟩ ∧ isName argument = true ∧
    name = String.ofList argument ∧ name ≠ "true" ∧ name ≠ "false"

/-- Whether a line is the directive of a keyword; what follows it does not matter. -/
def Line.Marks (keyword : Keyword) (line : List Char) : Prop :=
  ∃ argument, Line.read? line = some ⟨keyword, argument⟩

/-! ## Blocks -/

mutual

/-- Lines in which groups are nested. -/
inductive Block where
  | done
  | plain (line : List Char) (next : Block)
  | define (line : List Char) (name : String) (next : Block)
  | undefine (line : List Char) (name : String) (next : Block)
  | group (line : List Char) (condition : Expr) (body : Block) (branches : Branches) (next : Block)

/-- What follows the first body of a group, up to its end. -/
inductive Branches where
  | closing (line : List Char)
  | fallback (line : List Char) (body : Block) (last : List Char)
  | alternative (line : List Char) (condition : Expr) (body : Block) (more : Branches)

end

mutual

/-- The lines of a block in order. -/
def Block.lines : Block → List (List Char)
  | .done => []
  | .plain line next => line :: next.lines
  | .define line _ next => line :: next.lines
  | .undefine line _ next => line :: next.lines
  | .group line _ body branches next => line :: (body.lines ++ (branches.lines ++ next.lines))

/-- The lines of branches in order. -/
def Branches.lines : Branches → List (List Char)
  | .closing line => [line]
  | .fallback line body last => line :: (body.lines ++ [last])
  | .alternative line _ body more => line :: (body.lines ++ more.lines)

end

mutual

/-- Whether each line of a block is what the block takes it for. -/
def Block.WellFormed : Block → Prop
  | .done => True
  | .plain line next => Line.read? line = none ∧ next.WellFormed
  | .define line name next => Line.Names .define line name ∧ next.WellFormed
  | .undefine line name next => Line.Names .undefine line name ∧ next.WellFormed
  | .group line condition body branches next =>
    Line.Tests .opening line condition ∧ body.WellFormed ∧ branches.WellFormed ∧ next.WellFormed

/-- Whether each line of branches is what the branches take it for. -/
def Branches.WellFormed : Branches → Prop
  | .closing line => Line.Marks .closing line
  | .fallback line body last =>
    Line.Marks .fallback line ∧ body.WellFormed ∧ Line.Marks .closing last
  | .alternative line condition body more =>
    Line.Tests .alternative line condition ∧ body.WellFormed ∧ more.WellFormed

end

/-- What is left of lines none of which is kept. -/
def blankAll (ls : List (List Char)) : List Char := ls.flatMap blank

theorem blankAll_cons (line : List Char) (ls : List (List Char)) :
    blankAll (line :: ls) = blank line ++ blankAll ls := List.flatMap_cons

theorem blankAll_append (ls ms : List (List Char)) :
    blankAll (ls ++ ms) = blankAll ls ++ blankAll ms := List.flatMap_append

theorem blankAll_singleton (line : List Char) : blankAll [line] = blank line :=
  List.flatMap_singleton _ _

mutual

/-- What a block leaves where lines are kept, and the symbols that are defined behind it. -/
def Block.keep (defined : SymbolSet) : Block → List Char × SymbolSet
  | .done => ([], defined)
  | .plain line next =>
    let (text, after) := next.keep defined
    (line ++ text, after)
  | .define line name next =>
    let (text, after) := next.keep (defined.insert name)
    (blank line ++ text, after)
  | .undefine line name next =>
    let (text, after) := next.keep (defined.erase name)
    (blank line ++ text, after)
  | .group line condition body branches next =>
    let (inner, between) :=
      if condition.holds defined then
        let (text, after) := body.keep defined
        (text ++ blankAll branches.lines, after)
      else
        let (text, after) := branches.keep defined
        (blankAll body.lines ++ text, after)
    let (text, after) := next.keep between
    (blank line ++ (inner ++ text), after)

/-- What branches leave where no branch before them has been kept. -/
def Branches.keep (defined : SymbolSet) : Branches → List Char × SymbolSet
  | .closing line => (blank line, defined)
  | .fallback line body last =>
    let (text, after) := body.keep defined
    (blank line ++ (text ++ blank last), after)
  | .alternative line condition body more =>
    if condition.holds defined then
      let (text, after) := body.keep defined
      (blank line ++ (text ++ blankAll more.lines), after)
    else
      let (text, after) := more.keep defined
      (blank line ++ (blankAll body.lines ++ text), after)

end

/-! ## Going through lines -/

/-- Going through the lines leaves a text and leads to a state, whatever follows. -/
def Passes (st : State) (ls : List (List Char)) (text : List Char) (st' : State) : Prop :=
  ∀ number rest, keep number st (ls ++ rest) = (text ++ ·) <$> keep (number + ls.length) st' rest

variable {st st' : State}

theorem map_append_map_append {ε : Type} (front back : List Char) (x : Except ε (List Char)) :
    (front ++ ·) <$> ((back ++ ·) <$> x) = ((front ++ back) ++ ·) <$> x := by
  cases x with
  | error e => rfl
  | ok text => exact congrArg Except.ok (List.append_assoc ..).symm

theorem passes_nil (st : State) : Passes st [] [] st := by
  intro number rest
  show keep number st rest = (fun text => text) <$> keep number st rest
  cases keep number st rest <;> rfl

theorem Passes.append {between : State} {ls ms : List (List Char)} {text more : List Char}
    (h : Passes st ls text between) (h' : Passes between ms more st') :
    Passes st (ls ++ ms) (text ++ more) st' := by
  intro number rest
  rw [List.append_assoc, h, h', map_append_map_append, List.length_append, Nat.add_assoc]

theorem Passes.plain {line : List Char} {ls : List (List Char)} {text : List Char}
    (reads : Line.read? line = none) (h : Passes st ls text st') :
    Passes st (line :: ls) ((if st.active then line else blank line) ++ text) st' := by
  intro number rest
  rw [List.cons_append, keep, reads, List.length_cons, Nat.add_comm ls.length, ← Nat.add_assoc]
  simp only
  rw [h, map_append_map_append]

/-- The state behind a directive may know its line; what counts is the state behind all. -/
theorem Passes.directive {line : List Char} {d : Line} {next : Nat → State}
    {ls : List (List Char)} {text : List Char} (reads : Line.read? line = some d)
    (applied : ∀ number, st.apply number d = .ok (next number))
    (h : ∀ number, Passes (next number) ls text st') :
    Passes st (line :: ls) (blank line ++ text) st' := by
  intro number rest
  rw [List.cons_append, keep, reads, List.length_cons, Nat.add_comm ls.length, ← Nat.add_assoc]
  simp only [applied]
  rw [h, map_append_map_append]

/-! ## Going through directives -/

variable {defined : SymbolSet} {active : Bool} {group : Group} {groups : List Group}
  {line text : List Char} {ls : List (List Char)}

theorem symbolName_eq_ok {argument : List Char} {name : String} :
    State.apply.symbolName argument = .ok name ↔
      isName argument = true ∧ name = String.ofList argument ∧ name ≠ "true" ∧ name ≠ "false" := by
  unfold State.apply.symbolName
  simp only [Bool.and_eq_true, bne_iff_ne]
  split
  · next named =>
    constructor
    · rintro ⟨⟩
      exact ⟨named.1.1, rfl, named.1.2, named.2⟩
    · rintro ⟨-, rfl, -, -⟩
      rfl
  · next unnamed =>
    constructor
    · rintro ⟨⟩
    · rintro ⟨named, rfl, noTrue, noFalse⟩
      exact absurd ⟨⟨named, noTrue⟩, noFalse⟩ unnamed

/-- What a directive on line `number` does to a state that accepts it. -/
inductive State.Accepts (number : Nat) : State → Line → State → Prop
  | opening {defined : SymbolSet} {active : Bool} {groups : List Group} {argument : List Char}
      {condition : Expr} (parses : Expr.parse argument = .ok condition) :
      Accepts number ⟨defined, active, groups⟩ ⟨.opening, argument⟩
        ⟨defined, active && condition.holds defined,
          ⟨number, active, active && condition.holds defined, false⟩ :: groups⟩
  | alternative {defined : SymbolSet} {active : Bool} {group : Group} {groups : List Group}
      {argument : List Char} {condition : Expr} (undecided : group.last = false)
      (parses : Expr.parse argument = .ok condition) :
      Accepts number ⟨defined, active, group :: groups⟩ ⟨.alternative, argument⟩
        ⟨defined, group.enclosing && !group.taken && condition.holds defined,
          { group with taken := group.taken ||
              (group.enclosing && !group.taken && condition.holds defined) } :: groups⟩
  | fallback {defined : SymbolSet} {active : Bool} {group : Group} {groups : List Group}
      {argument : List Char} (undecided : group.last = false) :
      Accepts number ⟨defined, active, group :: groups⟩ ⟨.fallback, argument⟩
        ⟨defined, group.enclosing && !group.taken,
          { group with taken := true, last := true } :: groups⟩
  | closing {defined : SymbolSet} {active : Bool} {group : Group} {groups : List Group}
      {argument : List Char} :
      Accepts number ⟨defined, active, group :: groups⟩ ⟨.closing, argument⟩
        ⟨defined, group.enclosing, groups⟩
  | define {defined : SymbolSet} {active : Bool} {groups : List Group} {argument : List Char}
      {name : String} (named : State.apply.symbolName argument = .ok name) :
      Accepts number ⟨defined, active, groups⟩ ⟨.define, argument⟩
        ⟨if active then defined.insert name else defined, active, groups⟩
  | undefine {defined : SymbolSet} {active : Bool} {groups : List Group} {argument : List Char}
      {name : String} (named : State.apply.symbolName argument = .ok name) :
      Accepts number ⟨defined, active, groups⟩ ⟨.undefine, argument⟩
        ⟨if active then defined.erase name else defined, active, groups⟩

theorem State.Accepts.apply {number : Nat} {d : Line} (h : st.Accepts number d st') :
    st.apply number d = .ok st' := by
  cases h with
  | opening parses =>
      simp only [State.apply, State.test, parses]
      rfl
  | alternative undecided parses =>
      simp only [State.apply, State.test, parses, undecided]
      rfl
  | fallback undecided =>
      simp only [State.apply, undecided]
      rfl
  | closing => rfl
  | @define _ active _ _ _ named | @undefine _ active _ _ _ named =>
      simp only [State.apply, named]
      cases active <;> rfl

/-- A directive that changes a state has been accepted by it. -/
theorem State.accepts_of_apply {number : Nat} {d : Line} (applied : st.apply number d = .ok st') :
    st.Accepts number d st' := by
  obtain ⟨keyword, argument⟩ := d
  obtain ⟨defined, active, groups⟩ := st
  cases keyword with
  | opening =>
      obtain ⟨value, tested, made⟩ := exists_of_bind_eq_ok applied
      obtain ⟨condition, parses, rfl⟩ := exists_of_map_eq_ok tested
      cases made
      exact .opening parses
  | alternative =>
      cases groups with
      | nil => cases applied
      | cons group groups =>
          simp only [State.apply] at applied
          split at applied
          · cases applied
          · next undecided =>
            obtain ⟨value, tested, made⟩ := exists_of_bind_eq_ok applied
            obtain ⟨condition, parses, rfl⟩ := exists_of_map_eq_ok tested
            cases made
            exact .alternative (Bool.eq_false_iff.2 undecided) parses
  | fallback =>
      cases groups with
      | nil => cases applied
      | cons group groups =>
          simp only [State.apply] at applied
          split at applied
          · cases applied
          · next undecided =>
            cases applied
            exact .fallback (Bool.eq_false_iff.2 undecided)
  | closing =>
      cases groups with
      | nil => cases applied
      | cons group groups =>
          cases applied
          exact .closing
  | define =>
      obtain ⟨name, named, made⟩ := exists_of_bind_eq_ok applied
      cases active <;> cases made <;> exact .define named
  | undefine =>
      obtain ⟨name, named, made⟩ := exists_of_bind_eq_ok applied
      cases active <;> cases made <;> exact .undefine named

theorem Passes.define {name : String} (names : Line.Names .define line name)
    (h : Passes ⟨if active then defined.insert name else defined, active, groups⟩ ls text st') :
    Passes ⟨defined, active, groups⟩ (line :: ls) (blank line ++ text) st' := by
  obtain ⟨argument, reads, named⟩ := names
  exact .directive reads (fun _ => (State.Accepts.define (symbolName_eq_ok.2 named)).apply)
    fun _ => h

theorem Passes.undefine {name : String} (names : Line.Names .undefine line name)
    (h : Passes ⟨if active then defined.erase name else defined, active, groups⟩ ls text st') :
    Passes ⟨defined, active, groups⟩ (line :: ls) (blank line ++ text) st' := by
  obtain ⟨argument, reads, named⟩ := names
  exact .directive reads (fun _ => (State.Accepts.undefine (symbolName_eq_ok.2 named)).apply)
    fun _ => h

theorem Passes.opening {condition : Expr} (tests : Line.Tests .opening line condition)
    (h : ∀ number, Passes ⟨defined, active && condition.holds defined,
      ⟨number, active, active && condition.holds defined, false⟩ :: groups⟩ ls text st') :
    Passes ⟨defined, active, groups⟩ (line :: ls) (blank line ++ text) st' := by
  obtain ⟨argument, reads, parses⟩ := tests
  exact .directive reads (fun _ => (State.Accepts.opening parses).apply) h

theorem Passes.alternative {condition : Expr} (tests : Line.Tests .alternative line condition)
    (undecided : group.last = false)
    (h : Passes ⟨defined, group.enclosing && !group.taken && condition.holds defined,
      { group with taken :=
          group.taken || (group.enclosing && !group.taken && condition.holds defined) } :: groups⟩
      ls text st') :
    Passes ⟨defined, active, group :: groups⟩ (line :: ls) (blank line ++ text) st' := by
  obtain ⟨argument, reads, parses⟩ := tests
  exact .directive reads (fun _ => (State.Accepts.alternative undecided parses).apply) fun _ => h

theorem Passes.fallback (marks : Line.Marks .fallback line) (undecided : group.last = false)
    (h : Passes ⟨defined, group.enclosing && !group.taken,
      { group with taken := true, last := true } :: groups⟩ ls text st') :
    Passes ⟨defined, active, group :: groups⟩ (line :: ls) (blank line ++ text) st' := by
  obtain ⟨argument, reads⟩ := marks
  exact .directive reads (fun _ => (State.Accepts.fallback undecided).apply) fun _ => h

theorem Passes.closing (marks : Line.Marks .closing line)
    (h : Passes ⟨defined, group.enclosing, groups⟩ ls text st') :
    Passes ⟨defined, active, group :: groups⟩ (line :: ls) (blank line ++ text) st' := by
  obtain ⟨argument, reads⟩ := marks
  exact .directive reads (fun _ => State.Accepts.closing.apply) fun _ => h

theorem passes_closing (marks : Line.Marks .closing line) :
    Passes ⟨defined, active, group :: groups⟩ [line] (blank line)
      ⟨defined, group.enclosing, groups⟩ := by
  have closes : Passes ⟨defined, active, group :: groups⟩ [line] (blank line ++ []) _ :=
    .closing marks (passes_nil _)
  rwa [List.append_nil] at closes

/-! ## Going through blocks -/

mutual

/-- Where no line is kept, a block leaves the ends of its lines and defines nothing. -/
theorem Block.passes_inactive : (b : Block) → b.WellFormed → (groups : List Group) →
    Passes ⟨defined, false, groups⟩ b.lines (blankAll b.lines) ⟨defined, false, groups⟩
  | .done, _, _ => passes_nil _
  | .plain _ next, ⟨reads, wellFormed⟩, groups =>
    Passes.plain reads (next.passes_inactive wellFormed groups)
  | .define _ _ next, ⟨names, wellFormed⟩, groups =>
    Passes.define names (next.passes_inactive wellFormed groups)
  | .undefine _ _ next, ⟨names, wellFormed⟩, groups =>
    Passes.undefine names (next.passes_inactive wellFormed groups)
  | .group line _ body branches next, ⟨tests, ofBody, ofBranches, ofNext⟩, groups => by
    rw [Block.lines, blankAll_cons, blankAll_append, blankAll_append]
    refine Passes.opening tests fun number => (body.passes_inactive ofBody _).append ?_
    exact (branches.passes_skipped ofBranches _ _ _ rfl rfl).append
      (next.passes_inactive ofNext groups)

/-- Where no branch of a group is to be kept any more, branches leave the ends of their
lines. -/
theorem Branches.passes_skipped : (branches : Branches) → branches.WellFormed →
    (active : Bool) → (group : Group) → (groups : List Group) → group.last = false →
    (group.enclosing && !group.taken) = false →
    Passes ⟨defined, active, group :: groups⟩ branches.lines (blankAll branches.lines)
      ⟨defined, group.enclosing, groups⟩
  | .closing line, marks, _, _, _, _, _ => by
    rw [Branches.lines, blankAll_singleton]
    exact passes_closing marks
  | .fallback line body last, ⟨marks, ofBody, ofLast⟩, _, _, _, undecided, spent => by
    rw [Branches.lines, blankAll_cons, blankAll_append, blankAll_singleton]
    refine Passes.fallback marks undecided ?_
    rw [spent]
    exact (body.passes_inactive ofBody _).append (passes_closing ofLast)
  | .alternative line _ body more, ⟨tests, ofBody, ofMore⟩, _, group, groups, undecided, spent => by
    rw [Branches.lines, blankAll_cons, blankAll_append]
    refine Passes.alternative tests undecided ?_
    rw [spent, Bool.false_and, Bool.or_false]
    exact (body.passes_inactive ofBody _).append
      (more.passes_skipped ofMore _ group groups undecided spent)

end

mutual

/-- Where lines are kept, a block leaves what it keeps and defines what it says. -/
theorem Block.passes : (b : Block) → b.WellFormed → (defined : SymbolSet) →
    (groups : List Group) →
    Passes ⟨defined, true, groups⟩ b.lines (b.keep defined).1 ⟨(b.keep defined).2, true, groups⟩
  | .done, _, _, _ => passes_nil _
  | .plain _ next, ⟨reads, wellFormed⟩, defined, groups =>
    Passes.plain reads (next.passes wellFormed defined groups)
  | .define _ name next, ⟨names, wellFormed⟩, defined, groups =>
    Passes.define names (next.passes wellFormed (defined.insert name) groups)
  | .undefine _ name next, ⟨names, wellFormed⟩, defined, groups =>
    Passes.undefine names (next.passes wellFormed (defined.erase name) groups)
  | .group line condition body branches next, ⟨tests, ofBody, ofBranches, ofNext⟩, defined,
      groups => by
    rw [Block.lines, Block.keep]
    refine Passes.opening tests fun number => ?_
    rw [← List.append_assoc]
    refine Passes.append ?_ (next.passes ofNext _ groups)
    cases holds : condition.holds defined with
    | true =>
        exact (body.passes ofBody defined _).append
          (branches.passes_skipped ofBranches _ _ _ rfl rfl)
    | false =>
        exact (body.passes_inactive ofBody _).append
          (branches.passes_open ofBranches defined _ _ groups)

/-- Where lines are kept around a group and no branch of it has been kept yet, branches
leave what they keep. -/
theorem Branches.passes_open : (branches : Branches) → branches.WellFormed →
    (defined : SymbolSet) → (active : Bool) → (number : Nat) → (groups : List Group) →
    Passes ⟨defined, active, ⟨number, true, false, false⟩ :: groups⟩ branches.lines
      (branches.keep defined).1 ⟨(branches.keep defined).2, true, groups⟩
  | .closing line, marks, _, _, _, _ => passes_closing marks
  | .fallback line body last, ⟨marks, ofBody, ofLast⟩, defined, _, _, _ =>
    Passes.fallback marks rfl ((body.passes ofBody defined _).append (passes_closing ofLast))
  | .alternative line condition body more, ⟨tests, ofBody, ofMore⟩, defined, _, number,
      groups => by
    rw [Branches.lines, Branches.keep]
    cases holds : condition.holds defined with
    | true =>
        refine Passes.alternative tests rfl ?_
        rw [holds]
        exact (body.passes ofBody defined _).append (more.passes_skipped ofMore _ _ _ rfl rfl)
    | false =>
        refine Passes.alternative tests rfl ?_
        rw [holds]
        exact (body.passes_inactive ofBody _).append (more.passes_open ofMore defined _ _ groups)

end

/-! ## Finding the block -/

/-- Whether lines complete groups that are open, the innermost first: each by branches, or by
its end alone where its fallback has been read. -/
def Completes : List Bool → List (List Char) → Prop
  | [], ls => ∃ b : Block, b.WellFormed ∧ b.lines = ls
  | last :: outer, ls => ∃ (b : Block) (branches : Branches) (rest : List (List Char)),
    b.WellFormed ∧ branches.WellFormed ∧ (last = true → ∃ line, branches = .closing line) ∧
      b.lines ++ (branches.lines ++ rest) = ls ∧ Completes outer rest

/-- What can stand in front of a block can stand in front of lines that complete groups. -/
theorem Completes.push {groups : List Bool} {ls : List (List Char)}
    (front : List (List Char)) (extend : Block → Block)
    (wellFormed : ∀ b, b.WellFormed → (extend b).WellFormed)
    (extended : ∀ b, (extend b).lines = front ++ b.lines) (h : Completes groups ls) :
    Completes groups (front ++ ls) := by
  cases groups with
  | nil =>
      obtain ⟨b, ofBlock, rfl⟩ := h
      exact ⟨extend b, wellFormed b ofBlock, extended b⟩
  | cons last outer =>
      obtain ⟨b, branches, rest, ofBlock, ofBranches, closes, rfl, completes⟩ := h
      refine ⟨extend b, branches, rest, wellFormed b ofBlock, ofBranches, closes, ?_, completes⟩
      rw [extended, List.append_assoc]

/-- Branches can stand in front of lines that complete the groups around theirs. -/
theorem Completes.close {last : Bool} {groups : List Bool} {ls : List (List Char)}
    (branches : Branches) (ofBranches : branches.WellFormed)
    (closes : last = true → ∃ line, branches = .closing line) (h : Completes groups ls) :
    Completes (last :: groups) (branches.lines ++ ls) :=
  ⟨.done, branches, ls, trivial, ofBranches, closes, rfl, h⟩

/-- A directive that is accepted stands in front of what completes the groups behind it. -/
theorem completes_of_accepts {number : Nat} {d : Line} {next : State}
    (reads : Line.read? line = some d) (accepts : st.Accepts number d next)
    (h : Completes (next.groups.map Group.last) ls) :
    Completes (st.groups.map Group.last) (line :: ls) := by
  cases accepts with
  | opening parses =>
      obtain ⟨body, branches, rest, ofBody, ofBranches, -, rfl, completes⟩ := h
      rw [← List.append_assoc]
      exact completes.push (line :: (body.lines ++ branches.lines))
        (.group line _ body branches)
        (fun _ ofNext => ⟨⟨_, reads, parses⟩, ofBody, ofBranches, ofNext⟩)
        fun next => congrArg (List.cons line) (List.append_assoc ..).symm
  | alternative undecided parses =>
      obtain ⟨body, branches, rest, ofBody, ofBranches, -, rfl, completes⟩ := h
      rw [List.map_cons, undecided, ← List.append_assoc]
      exact completes.close (.alternative line _ body branches)
        ⟨⟨_, reads, parses⟩, ofBody, ofBranches⟩ nofun
  | fallback undecided =>
      obtain ⟨body, branches, rest, ofBody, ofBranches, closes, rfl, completes⟩ := h
      obtain ⟨final, rfl⟩ := closes rfl
      rw [List.map_cons, undecided, ← List.append_assoc]
      exact completes.close (.fallback line body final) ⟨⟨_, reads⟩, ofBody, ofBranches⟩ nofun
  | closing => exact h.close (.closing line) ⟨_, reads⟩ fun _ => ⟨line, rfl⟩
  | define named =>
      exact h.push [line] (.define line _)
        (fun _ ofNext => ⟨⟨_, reads, symbolName_eq_ok.1 named⟩, ofNext⟩) fun _ => rfl
  | undefine named =>
      exact h.push [line] (.undefine line _)
        (fun _ ofNext => ⟨⟨_, reads, symbolName_eq_ok.1 named⟩, ofNext⟩) fun _ => rfl

/-- Lines that are gone through without an error complete the groups that are open. -/
theorem completes_of_keep {number : Nat} {st : State} {ls : List (List Char)} {text : List Char}
    (h : keep number st ls = .ok text) : Completes (st.groups.map Group.last) ls := by
  induction ls generalizing number st text with
  | nil =>
      cases groups : st.groups with
      | nil => exact ⟨.done, trivial, rfl⟩
      | cons group groups =>
          rw [keep, groups] at h
          cases h
  | cons line ls ih =>
      rw [keep] at h
      cases reads : Line.read? line with
      | none =>
          rw [reads] at h
          obtain ⟨text, kept, -⟩ := exists_of_map_eq_ok h
          exact (ih kept).push [line] (.plain line) (fun _ ofBlock => ⟨reads, ofBlock⟩)
            fun _ => rfl
      | some d =>
          rw [reads] at h
          cases applied : st.apply number d with
          | error fault =>
              simp only [applied] at h
              cases h
          | ok next =>
              simp only [applied] at h
              obtain ⟨text, kept, -⟩ := exists_of_map_eq_ok h
              exact completes_of_accepts reads (State.accepts_of_apply applied) (ih kept)

/-! ## Whole texts -/

/-- A text is preprocessed exactly where its lines are those of a well-formed block, and then
to what is kept of the block. -/
theorem preprocess_block (text : String) (defined : SymbolSet) :
    ((∃ out, preprocess text defined = .ok out) ↔
        ∃ b : Block, b.WellFormed ∧ b.lines = lines text.toList) ∧
      ∀ b : Block, b.WellFormed → b.lines = lines text.toList →
        preprocess text defined = .ok (String.ofList (b.keep defined).1) := by
  have computes : ∀ b : Block, b.WellFormed → b.lines = lines text.toList →
      preprocess text defined = .ok (String.ofList (b.keep defined).1) := by
    intro b wellFormed same
    have passes := b.passes wellFormed defined [] 1 []
    rw [List.append_nil, same] at passes
    rw [preprocess, State.start, passes, keep]
    exact congrArg (fun text => Except.ok (String.ofList text)) (List.append_nil _)
  refine ⟨⟨?_, fun ⟨b, wellFormed, same⟩ => ⟨_, computes b wellFormed same⟩⟩, computes⟩
  rintro ⟨out, done⟩
  obtain ⟨text, kept, -⟩ := exists_of_map_eq_ok done
  exact completes_of_keep kept

/-- A group with a definition in a branch that is not kept. -/
def Block.undecided : Block :=
  .group "#if A\n".toList (.symbol "A")
    (.define "#define B\n".toList "B" .done)
    (.fallback "#else\n".toList (.plain "x\n".toList .done) "#endif\n".toList)
    .done

-- every character of a directive is looked up in the table of letters and numbers
set_option maxRecDepth 4000 in
theorem Block.wellFormed_undecided : Block.undecided.WellFormed := by
  have scanned : Token.scan ['A'] = .ok [.word "A"] := by
    rw [Token.scan.eq_def]
    change Except.map _ (Token.scan []) = _
    rw [Token.scan]
    rfl
  have parsed : Expr.parse ['A'] = .ok (.symbol "A") := by
    rw [Expr.parse, scanned]
    rfl
  have opens : Line.Tests .opening "#if A\n".toList (.symbol "A") := ⟨['A'], rfl, parsed⟩
  have defines : Line.Names .define "#define B\n".toList "B" :=
    ⟨['B'], rfl, rfl, rfl, by decide, by decide⟩
  exact ⟨opens, ⟨defines, trivial⟩, ⟨⟨[], rfl⟩, ⟨rfl, trivial⟩, ⟨[], rfl⟩⟩, trivial⟩

theorem preprocess_block_undecided :
    preprocess "#if A\n#define B\n#else\nx\n#endif\n" ∅ = .ok "\n\n\nx\n\n" :=
  (preprocess_block "#if A\n#define B\n#else\nx\n#endif\n" ∅).2 Block.undecided
    Block.wellFormed_undecided (by decide +kernel)

end PluginBuild.Directive
