/-
# Proofs.Directive.Mention -- a text depends only on the symbols that it asks about

A text asks about the symbols in the conditions of its `#if` and `#elif` (`mentioned`); what it
defines and undefines itself need not be among them.  Two states that differ only in symbols that
are not asked about (`State.AgreesOn`) give every condition the same truth (`holds_congr`), so they
keep the same lines and go on to states that differ no more (`AgreesOn.accepts`).  Hence sets that
agree on what a text asks about preprocess it to the same result (`preprocess_congr`).
-/
import PluginBuild.Proofs.Directive.Grammar
import PluginBuild.Proofs.Directive.Numbering

namespace PluginBuild

set_option autoImplicit false

/-- Whether two sets hold the same of some symbols. -/
def SymbolSet.AgreesOn (names : List String) (s t : SymbolSet) : Prop :=
  ∀ name ∈ names, (name ∈ s ↔ name ∈ t)

namespace SymbolSet.AgreesOn

variable {names : List String} {s t : SymbolSet}

theorem mono {fewer : List String} (h : s.AgreesOn names t) (among : fewer ⊆ names) :
    s.AgreesOn fewer t := fun name mentioned => h name (among mentioned)

theorem insert (h : s.AgreesOn names t) (x : String) :
    (s.insert x).AgreesOn names (t.insert x) := by
  intro name among
  rw [mem_insert, mem_insert, h name among]

theorem erase (h : s.AgreesOn names t) (x : String) : (s.erase x).AgreesOn names (t.erase x) := by
  intro name among
  rw [mem_erase, mem_erase, h name among]

end SymbolSet.AgreesOn

namespace Directive

open PluginBuild.Text

/-! ## What is asked about -/

/-- The symbol that a token is: a word that is no constant. -/
def Token.symbol? : Token → Option String
  | .word name => if name = "true" ∨ name = "false" then none else some name
  | _ => none

/-- The symbols in some tokens. -/
def symbolsAmong (ts : List Token) : List String := ts.filterMap Token.symbol?

/-- The symbols in the text of a condition.  A text in which not all can be read as tokens is
refused whatever is defined, and has none. -/
def symbolsIn (condition : List Char) : List String :=
  match Token.scan condition with
  | .ok ts => symbolsAmong ts
  | .error _ => []

/-- The symbols that a directive asks about. -/
def Line.symbols (d : Line) : List String :=
  match d.keyword with
  | .opening | .alternative => symbolsIn d.argument
  | _ => []

/-- The symbols that the directives among some lines ask about. -/
def symbolsOf (ls : List (List Char)) : List String :=
  (ls.filterMap Line.read?).flatMap Line.symbols

/-- The symbols that a text asks about. -/
def mentioned (text : String) : List String := symbolsOf (lines text.toList)

theorem symbolsAmong_append (ts us : List Token) :
    symbolsAmong (ts ++ us) = symbolsAmong ts ++ symbolsAmong us := List.filterMap_append

theorem symbolsOf_cons (line : List Char) (ls : List (List Char)) :
    symbolsOf (line :: ls) = ((Line.read? line).map Line.symbols).getD [] ++ symbolsOf ls := by
  unfold symbolsOf
  cases reads : Line.read? line with
  | none => rw [List.filterMap_cons_none reads]; rfl
  | some d => rw [List.filterMap_cons_some reads]; rfl

/-! ## Conditions -/

variable {p : Precedence} {defined other : SymbolSet}

/-- What agrees on the symbols of an operation agrees on those of its two sides. -/
theorem agreesOn_sides {ts us : List Token} {t : Token}
    (agrees : defined.AgreesOn (symbolsAmong (ts ++ t :: us)) other) :
    defined.AgreesOn (symbolsAmong ts) other ∧ defined.AgreesOn (symbolsAmong us) other := by
  rw [← List.singleton_append, symbolsAmong_append, symbolsAmong_append] at agrees
  obtain ⟨ofLeft, behind⟩ := List.forall_mem_append.1 agrees
  exact ⟨ofLeft, (List.forall_mem_append.1 behind).2⟩

/-- The truth of a phrase depends on the symbols among its tokens. -/
theorem Phrase.value_congr {phrase : Phrase p}
    (agrees : defined.AgreesOn (symbolsAmong phrase.tokens) other) :
    phrase.value defined = phrase.value other := by
  induction phrase with
  | constant value => rfl
  | symbol name =>
      have asked : name.text ∈ symbolsAmong (symbol name).tokens := by
        simp [symbolsAmong, tokens, Token.symbol?, name.ne_true, name.ne_false]
      rw [value, value, decide_eq_decide]
      exact agrees name.text asked
  | parentheses inner ih => exact ih (agreesOn_sides agrees).1
  | primary only ih | unary only ih | comparison only ih | conjunction only ih => exact ih agrees
  | not operand ih => exact congrArg (!·) (ih agrees)
  | compare equal left right ihLeft ihRight =>
      obtain ⟨ofLeft, ofRight⟩ := agreesOn_sides agrees
      cases equal <;> rw [value, value, ihLeft ofLeft, ihRight ofRight]
  | and left right ihLeft ihRight | or left right ihLeft ihRight =>
      obtain ⟨ofLeft, ofRight⟩ := agreesOn_sides agrees
      rw [value, value, ihLeft ofLeft, ihRight ofRight]

theorem holds_congr {condition : List Char} {e : Expr} (parsed : Expr.parse condition = .ok e)
    (agrees : defined.AgreesOn (symbolsIn condition) other) : e.holds defined = e.holds other := by
  obtain ⟨phrase, rfl, spells⟩ := Expr.parse_eq_ok_iff.1 parsed
  have scanned := Token.scan_of_spells spells phrase.ofTokens_tokens.2
  rw [symbolsIn, scanned] at agrees
  rw [phrase.holds_expr, phrase.holds_expr, phrase.value_congr agrees]

/-! ## Going through lines -/

/-- Whether two states differ at most in symbols that are not among some names. -/
structure State.AgreesOn (names : List String) (st st' : State) : Prop where
  defined : st.defined.AgreesOn names st'.defined
  active : st.active = st'.active
  groups : st.groups = st'.groups

variable {st st' next : State} {names : List String} {number : Nat}

/-- A state that agrees with one that accepts a directive accepts it, and the next states agree. -/
theorem State.AgreesOn.accepts {d : Line} (agrees : st.AgreesOn names st')
    (asked : d.symbols ⊆ names) (accepts : st.Accepts number d next) :
    ∃ next', st'.Accepts number d next' ∧ next.AgreesOn names next' := by
  obtain ⟨defined, active, groups⟩ := st
  obtain ⟨other, active', groups'⟩ := st'
  obtain ⟨same, rfl, rfl⟩ := agrees
  cases accepts with
  | opening parses =>
      rw [holds_congr parses (same.mono asked)]
      exact ⟨_, .opening parses, same, rfl, rfl⟩
  | alternative undecided parses =>
      rw [holds_congr parses (same.mono asked)]
      exact ⟨_, .alternative undecided parses, same, rfl, rfl⟩
  | fallback undecided => exact ⟨_, .fallback undecided, same, rfl, rfl⟩
  | closing => exact ⟨_, .closing, same, rfl, rfl⟩
  | define named =>
      refine ⟨_, .define named, ?_, rfl, rfl⟩
      cases active with
      | true => exact same.insert _
      | false => exact same
  | undefine named =>
      refine ⟨_, .undefine named, ?_, rfl, rfl⟩
      cases active with
      | true => exact same.erase _
      | false => exact same

/-- States that agree leave the same of a line. -/
theorem State.AgreesOn.left (agrees : st.AgreesOn names st') (line : List Char) :
    st.left line = st'.left line := by
  rw [State.left, State.keeps, agrees.active, ← State.keeps, ← State.left]

/-- States that agree on what lines ask about keep the same of them. -/
theorem State.AgreesOn.keep {ls : List (List Char)} {out : List Char}
    (agrees : st.AgreesOn names st') (asked : symbolsOf ls ⊆ names)
    (kept : Directive.keep number st ls = .ok out) : Directive.keep number st' ls = .ok out := by
  induction ls generalizing number st st' out with
  | nil =>
      rw [Directive.keep] at kept ⊢
      rwa [← agrees.groups]
  | cons line ls ih =>
      rw [symbolsOf_cons, List.append_subset] at asked
      obtain ⟨next, more, stepped, keptMore, rfl⟩ := exists_of_keep_cons kept
      have steps : ∃ next', st'.next number line = .ok next' ∧ next.AgreesOn names next' := by
        rw [State.next] at stepped ⊢
        cases reads : Line.read? line with
        | none =>
            rw [reads] at stepped
            cases stepped
            exact ⟨st', rfl, agrees⟩
        | some d =>
            rw [reads] at stepped asked
            obtain ⟨next', accepts, agrees'⟩ :=
              agrees.accepts asked.1 (State.accepts_of_apply stepped)
            exact ⟨next', accepts.apply, agrees'⟩
      obtain ⟨next', stepped', agrees'⟩ := steps
      rw [keep_cons, stepped', agrees.left line]
      simp only [ih agrees' asked.2 keptMore]
      rfl

/-! ## Whole texts -/

/-- Sets that agree on the symbols a text asks about preprocess it to the same result. -/
theorem preprocess_congr (text : String) {defined other : SymbolSet}
    (agrees : defined.AgreesOn (mentioned text) other) :
    preprocess text defined = preprocess text other := by
  have agrees' : (State.start defined).AgreesOn (mentioned text) (.start other) :=
    ⟨agrees, rfl, rfl⟩
  cases done : preprocess text defined with
  | error e =>
      rw [preprocess_eq_error_iff] at done
      exact (preprocess_eq_error_iff.2 done).symm
  | ok out =>
      obtain ⟨left, kept, rfl⟩ := exists_of_map_eq_ok done
      rw [preprocess, agrees'.keep (List.Subset.refl _) kept]
      rfl

/-- A text that asks about a symbol that it defines, and about a constant. -/
def definingText : String := "#if A\n#define B\n#endif\n#if B == true\nx\n#endif\n"

theorem mentioned_definingText : mentioned definingText = ["A", "B"] := by decide +kernel

theorem preprocess_congr_constant :
    (SymbolSet.ofList ["A", "true"]).AgreesOn (mentioned definingText) (SymbolSet.ofList ["A"]) ∧
      preprocess definingText (SymbolSet.ofList ["A", "true"]) = .ok "\n\n\n\nx\n\n" ∧
      preprocess definingText (SymbolSet.ofList ["A"]) = .ok "\n\n\n\nx\n\n" := by
  have agrees : (SymbolSet.ofList ["A", "true"]).AgreesOn (mentioned definingText)
      (SymbolSet.ofList ["A"]) := by
    rw [mentioned_definingText]
    intro name among
    simp only [List.mem_cons, List.not_mem_nil, or_false] at among
    rcases among with rfl | rfl <;> decide
  have done : preprocess definingText (SymbolSet.ofList ["A"]) = .ok "\n\n\n\nx\n\n" := by
    decide +kernel
  exact ⟨agrees, (preprocess_congr definingText agrees).trans done, done⟩

end Directive

end PluginBuild
