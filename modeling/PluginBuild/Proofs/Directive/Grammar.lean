/-
# Proofs.Directive.Grammar -- the conditions that texts write

`Phrase` is the grammar of conditions, with one kind of phrase for each precedence:

    disjunction ::= conjunction | disjunction `||` conjunction
    conjunction ::= comparison | conjunction `&&` comparison
    comparison  ::= unary | comparison `==` unary | comparison `!=` unary
    unary       ::= primary | `!` unary
    primary     ::= `(` disjunction `)` | `true` | `false` | name

Operators of one precedence group from the left because a phrase stands on their left and one
of the next precedence on their right.  `Phrase.value` is the truth of a phrase, by recursion
on it.

The machine that reads tokens goes through every phrase (`Phrase.taken`), and what it has
gone through is always the beginning of a phrase (`Reading.Holds`, kept by each step in
`Holds.step`).  So a text is evaluated exactly where it writes a disjunction, and then to the
value of that (`evaluate_phrase`).
-/
import PluginBuild.Directive.Expr
import PluginBuild.Proofs.Directive.Spelling

namespace PluginBuild.Directive

set_option autoImplicit false

open PluginBuild.Text

/-! ## Phrases -/

/-- How tightly a phrase holds together, the tightest first. -/
inductive Precedence where
  | primary
  | unary
  | comparison
  | conjunction
  | disjunction

/-- A name that stands for a symbol and not for a constant. -/
structure SymbolName where
  text : String
  named : isName text.toList = true
  ne_true : text ≠ "true"
  ne_false : text ≠ "false"

inductive Phrase : Precedence → Type where
  | constant (value : Bool) : Phrase .primary
  | symbol (name : SymbolName) : Phrase .primary
  | parentheses (inner : Phrase .disjunction) : Phrase .primary
  | primary (only : Phrase .primary) : Phrase .unary
  | not (operand : Phrase .unary) : Phrase .unary
  | unary (only : Phrase .unary) : Phrase .comparison
  | compare (equal : Bool) (left : Phrase .comparison) (right : Phrase .unary) :
      Phrase .comparison
  | comparison (only : Phrase .comparison) : Phrase .conjunction
  | and (left : Phrase .conjunction) (right : Phrase .comparison) : Phrase .conjunction
  | conjunction (only : Phrase .conjunction) : Phrase .disjunction
  | or (left : Phrase .disjunction) (right : Phrase .conjunction) : Phrase .disjunction

namespace Phrase

variable {p : Precedence}

/-- The tokens of a phrase in order. -/
def tokens {p : Precedence} : Phrase p → List Token
  | constant value => [.word (if value then "true" else "false")]
  | symbol name => [.word name.text]
  | parentheses inner => .lparen :: (inner.tokens ++ [.rparen])
  | primary only => only.tokens
  | not operand => .not :: operand.tokens
  | unary only => only.tokens
  | compare equal left right => left.tokens ++ (if equal then .eq else .ne) :: right.tokens
  | comparison only => only.tokens
  | and left right => left.tokens ++ .and :: right.tokens
  | conjunction only => only.tokens
  | or left right => left.tokens ++ .or :: right.tokens

/-- Whether a phrase is true when exactly the symbols in `defined` are defined. -/
def value (defined : SymbolSet) {p : Precedence} : Phrase p → Bool
  | constant value => value
  | symbol name => decide (name.text ∈ defined)
  | parentheses inner => inner.value defined
  | primary only => only.value defined
  | not operand => !operand.value defined
  | unary only => only.value defined
  | compare true left right => left.value defined == right.value defined
  | compare false left right => left.value defined != right.value defined
  | comparison only => only.value defined
  | and left right => left.value defined && right.value defined
  | conjunction only => only.value defined
  | or left right => left.value defined || right.value defined

/-- Whether a text is the tokens of a phrase with any white space around them. -/
def Writes (phrase : Phrase p) (text : String) : Prop :=
  Token.Spells phrase.tokens text.toList

/-- The condition that a phrase is. -/
def expr {p : Precedence} : Phrase p → Expr
  | constant value => .const value
  | symbol name => .symbol name.text
  | parentheses inner => inner.expr
  | primary only => only.expr
  | not operand => .not operand.expr
  | unary only => only.expr
  | compare true left right => .eq left.expr right.expr
  | compare false left right => .ne left.expr right.expr
  | comparison only => only.expr
  | and left right => .and left.expr right.expr
  | conjunction only => only.expr
  | or left right => .or left.expr right.expr

theorem holds_expr (defined : SymbolSet) (phrase : Phrase p) :
    phrase.expr.holds defined = phrase.value defined := by
  induction phrase with
  | constant value => rfl
  | symbol name => rfl
  | parentheses inner ih | primary inner ih | unary inner ih | comparison inner ih
  | conjunction inner ih => exact ih
  | not operand ih => rw [expr, Expr.holds, ih, value]
  | compare equal left right ihLeft ihRight =>
      cases equal <;> rw [expr, Expr.holds, ihLeft, ihRight, value]
  | and left right ihLeft ihRight => rw [expr, Expr.holds, ihLeft, ihRight, value]
  | or left right ihLeft ihRight => rw [expr, Expr.holds, ihLeft, ihRight, value]

end Phrase

/-! ## Going through tokens -/

namespace Reading

/-- Whether the machine goes from one reading to another by taking tokens. -/
def Goes (r : Reading) (ts : List Token) (r' : Reading) : Prop := ts.foldlM step r = .ok r'

variable {r r' r'' : Reading} {t : Token} {ts us : List Token}

theorem goes_nil (r : Reading) : r.Goes [] r := rfl

theorem goes_cons : r.Goes (t :: ts) r'' ↔ ∃ r', r.step t = .ok r' ∧ r'.Goes ts r'' := by
  unfold Goes
  rw [List.foldlM_cons]
  constructor
  · exact exists_of_bind_eq_ok
  · rintro ⟨r', stepped, goes⟩
    rw [stepped]
    exact goes

theorem Goes.append (h : r.Goes ts r') (h' : r'.Goes us r'') : r.Goes (ts ++ us) r'' := by
  unfold Goes at h h' ⊢
  rw [List.foldlM_append, h]
  exact h'

theorem Goes.cons (stepped : r.step t = .ok r') (h : r'.Goes ts r'') : r.Goes (t :: ts) r'' :=
  goes_cons.2 ⟨r', stepped, h⟩

/-- Where an operand has been read no word can follow, and where one is due no comparison. -/
theorem staysApart_of_step {t t' : Token} (first : r.step t = .ok r')
    (second : r'.step t' = .ok r'') : t.StaysApart t' := by
  cases t with
  | word name =>
      cases t' with
      | word name' =>
          cases r with
          | operator last top outer => cases outer <;> cases first
          | operand top outer =>
              cases first
              cases outer <;> cases second
      | _ => trivial
  | not =>
      cases t' with
      | eq =>
          cases r with
          | operator last top outer => cases outer <;> cases first
          | operand top outer =>
              cases first
              cases second
      | _ => trivial
  | _ => trivial

/-- No two tokens that the machine takes would run together. -/
theorem Goes.isChain (h : r.Goes ts r') : ts.IsChain Token.StaysApart := by
  induction ts generalizing r with
  | nil => exact .nil
  | cons t ts ih =>
      obtain ⟨between, first, goes⟩ := goes_cons.1 h
      refine (ih goes).cons ?_
      intro t' among
      cases ts with
      | nil => cases among
      | cons u us =>
          cases among
          obtain ⟨after, second, -⟩ := goes_cons.1 goes
          exact staysApart_of_step first second

end Reading

/-! ## Every phrase is gone through -/

open Reading

/-- Whether the machine gets through tokens from wherever a phrase of some precedence may
start, with the condition `e` as the operand of what stands around them. -/
def Precedence.Takes : Precedence → List Token → Expr → Prop
  | .primary, ts, e => ∀ f outer, Goes (.operand f outer) ts (.operator e f outer)
  | .unary, ts, e => ∀ f outer, ∃ last n, last.negated n = e ∧
      Goes (.operand f outer) ts
        (.operator last { f with negations := f.negations + n } outer)
  | .comparison, ts, e => ∀ d c outer, ∃ last comparand n,
      Frame.comparison ⟨d, c, comparand, n⟩ last = e ∧
      Goes (.operand ⟨d, c, none, 0⟩ outer) ts (.operator last ⟨d, c, comparand, n⟩ outer)
  | .conjunction, ts, e => ∀ d outer, ∃ last c comparand n,
      Frame.conjunction ⟨d, c, comparand, n⟩ last = e ∧
      Goes (.operand ⟨d, none, none, 0⟩ outer) ts (.operator last ⟨d, c, comparand, n⟩ outer)
  | .disjunction, ts, e => ∀ outer, ∃ last top, Frame.disjunction top last = e ∧
      Goes (.operand .start outer) ts (.operator last top outer)

theorem Phrase.taken {p : Precedence} (phrase : Phrase p) :
    p.Takes phrase.tokens phrase.expr := by
  induction phrase with
  | constant value =>
      intro f outer
      cases value <;> exact Goes.cons rfl (goes_nil _)
  | symbol name =>
      intro f outer
      refine Goes.cons ?_ (goes_nil _)
      rw [step, Expr.ofName, if_neg name.ne_true, if_neg name.ne_false]
      rfl
  | parentheses inner ih =>
      intro f outer
      obtain ⟨last, top, joined, goes⟩ := ih (f :: outer)
      show Goes (.operand f outer) (.lparen :: (inner.tokens ++ [.rparen]))
        (.operator inner.expr f outer)
      rw [← joined]
      exact Goes.cons rfl (goes.append (Goes.cons rfl (goes_nil _)))
  | primary only ih =>
      intro f outer
      exact ⟨only.expr, 0, rfl, ih f outer⟩
  | not operand ih =>
      intro f outer
      obtain ⟨last, n, negated, goes⟩ := ih { f with negations := f.negations + 1 } outer
      refine ⟨last, n + 1, congrArg Expr.not negated, Goes.cons rfl ?_⟩
      rw [Nat.add_comm n, ← Nat.add_assoc]
      exact goes
  | unary only ih =>
      intro d c outer
      obtain ⟨last, n, negated, goes⟩ := ih ⟨d, c, none, 0⟩ outer
      exact ⟨last, none, 0 + n, by rw [Nat.zero_add]; exact negated, goes⟩
  | compare equal left right ihLeft ihRight =>
      intro d c outer
      obtain ⟨last, comparand, n, compared, goes⟩ := ihLeft d c outer
      obtain ⟨last', n', negated, goes'⟩ := ihRight ⟨d, c, some (equal, left.expr), 0⟩ outer
      refine ⟨last', some (equal, left.expr), 0 + n', ?_, ?_⟩
      · rw [Nat.zero_add]
        cases equal with
        | true => exact congrArg (Expr.eq left.expr) negated
        | false => exact congrArg (Expr.ne left.expr) negated
      · rw [← compared] at goes' ⊢
        refine goes.append (Goes.cons ?_ goes')
        cases equal <;> rfl
  | comparison only ih =>
      intro d outer
      obtain ⟨last, comparand, n, compared, goes⟩ := ih d none outer
      exact ⟨last, none, comparand, n, compared, goes⟩
  | and left right ihLeft ihRight =>
      intro d outer
      obtain ⟨last, c, comparand, n, joined, goes⟩ := ihLeft d outer
      obtain ⟨last', comparand', n', compared, goes'⟩ := ihRight d (some left.expr) outer
      refine ⟨last', some left.expr, comparand', n', congrArg (Expr.and left.expr) compared, ?_⟩
      rw [← joined] at goes' ⊢
      exact goes.append (Goes.cons rfl goes')
  | conjunction only ih =>
      intro outer
      obtain ⟨last, c, comparand, n, joined, goes⟩ := ih none outer
      exact ⟨last, ⟨none, c, comparand, n⟩, joined, goes⟩
  | or left right ihLeft ihRight =>
      intro outer
      obtain ⟨last, top, joined, goes⟩ := ihLeft outer
      obtain ⟨last', c, comparand, n, joined', goes'⟩ := ihRight (some left.expr) outer
      refine ⟨last', ⟨some left.expr, c, comparand, n⟩,
        congrArg (Expr.or left.expr) joined', ?_⟩
      rw [← joined] at goes' ⊢
      exact goes.append (Goes.cons rfl goes')

theorem Expr.ofTokens_eq {ts : List Token} (nonempty : ts ≠ []) :
    ofTokens ts = ts.foldlM Reading.step Reading.start >>= Reading.finish := by
  cases ts with
  | nil => exact absurd rfl nonempty
  | cons t ts => rfl

/-- The tokens of a disjunction are those of the condition that it is, and would not run
together. -/
theorem Phrase.ofTokens_tokens (phrase : Phrase .disjunction) :
    Expr.ofTokens phrase.tokens = .ok phrase.expr ∧ phrase.tokens.IsChain Token.StaysApart := by
  obtain ⟨last, top, joined, goes⟩ := phrase.taken []
  have nonempty : phrase.tokens ≠ [] := by
    intro empty
    rw [empty] at goes
    cases goes
  refine ⟨?_, goes.isChain⟩
  have goes : phrase.tokens.foldlM step start = .ok (operator last top []) := goes
  rw [Expr.ofTokens_eq nonempty, goes, ← joined]
  rfl

/-! ## Only phrases are gone through -/

/-- Whether tokens are a left side and its operator, or none where there is no left side. -/
def LeftSide (p : Precedence) (operator : Token) : Option Expr → List Token → Prop
  | none, ts => ts = []
  | some e, ts => ∃ left : Phrase p, left.expr = e ∧ ts = left.tokens ++ [operator]

/-- Whether tokens are the left side of a comparison, or none. -/
def Comparand : Option (Bool × Expr) → List Token → Prop
  | none, ts => ts = []
  | some (equal, e), ts => LeftSide .comparison (if equal then .eq else .ne) (some e) ts

/-- Whether tokens are what a frame has read: a left side for each level and the negations. -/
def Frame.Holds (f : Frame) (ts : List Token) : Prop :=
  ∃ disjunct conjunct comparand, LeftSide .disjunction .or f.disjunct disjunct ∧
    LeftSide .conjunction .and f.conjunct conjunct ∧ Comparand f.comparand comparand ∧
    ts = disjunct ++ (conjunct ++ (comparand ++ List.replicate f.negations .not))

theorem Frame.holds_start : Frame.start.Holds [] := ⟨[], [], [], rfl, rfl, rfl, rfl⟩

theorem exists_unary (n : Nat) (x : Phrase .primary) : ∃ u : Phrase .unary,
    u.expr = x.expr.negated n ∧ u.tokens = List.replicate n .not ++ x.tokens := by
  induction n with
  | zero => exact ⟨.primary x, rfl, rfl⟩
  | succ n ih =>
      obtain ⟨u, negated, written⟩ := ih
      refine ⟨.not u, congrArg Expr.not negated, ?_⟩
      rw [Phrase.tokens, written]
      rfl

/-- What stands behind a left side is joined to it, and is a phrase by itself where there is
none. -/
theorem LeftSide.exists_phrase {p q : Precedence} {operator : Token} {side : Option Expr}
    {ts : List Token} (h : LeftSide p operator side ts) (only : Phrase q → Phrase p)
    (join : Phrase p → Phrase q → Phrase p) (combine : Expr → Expr → Expr)
    (ofOnly : ∀ x, (only x).expr = x.expr ∧ (only x).tokens = x.tokens)
    (ofJoin : ∀ l x, (join l x).expr = combine l.expr x.expr ∧
      (join l x).tokens = l.tokens ++ operator :: x.tokens) (x : Phrase q) :
    ∃ y : Phrase p, y.expr = side.elim x.expr (combine · x.expr) ∧ y.tokens = ts ++ x.tokens := by
  cases side with
  | none =>
      cases h
      exact ⟨only x, (ofOnly x).1, (ofOnly x).2⟩
  | some e =>
      obtain ⟨left, rfl, rfl⟩ := h
      obtain ⟨combined, written⟩ := ofJoin left x
      refine ⟨join left x, combined, ?_⟩
      rw [written, List.append_assoc]
      rfl

theorem Comparand.exists_phrase {f : Frame} {ts : List Token} (h : Comparand f.comparand ts)
    (x : Phrase .primary) : ∃ q : Phrase .comparison, q.expr = f.comparison x.expr ∧
      q.tokens = ts ++ (List.replicate f.negations .not ++ x.tokens) := by
  obtain ⟨u, negated, written⟩ := exists_unary f.negations x
  unfold Frame.comparison Frame.unary
  rw [← negated, ← written]
  cases pending : f.comparand with
  | none =>
      rw [pending] at h
      cases h
      exact ⟨.unary u, rfl, rfl⟩
  | some side =>
      obtain ⟨equal, e⟩ := side
      rw [pending] at h
      cases equal with
      | true =>
          have h : LeftSide .comparison .eq (some e) ts := h
          exact h.exists_phrase .unary (.compare true) .eq (fun _ => ⟨rfl, rfl⟩)
            (fun _ _ => ⟨rfl, rfl⟩) u
      | false =>
          have h : LeftSide .comparison .ne (some e) ts := h
          exact h.exists_phrase .unary (.compare false) .ne (fun _ => ⟨rfl, rfl⟩)
            (fun _ _ => ⟨rfl, rfl⟩) u

/-- A primary behind a frame ends a comparison, a conjunction and a disjunction. -/
theorem Frame.Holds.exists_phrases {f : Frame} {ts : List Token} (h : f.Holds ts)
    (x : Phrase .primary) : ∃ (disjunct conjunct : List Token) (q : Phrase .comparison)
      (k : Phrase .conjunction) (d : Phrase .disjunction),
      LeftSide .disjunction .or f.disjunct disjunct ∧
      LeftSide .conjunction .and f.conjunct conjunct ∧
      (q.expr = f.comparison x.expr ∧ disjunct ++ (conjunct ++ q.tokens) = ts ++ x.tokens) ∧
      (k.expr = f.conjunction x.expr ∧ disjunct ++ k.tokens = ts ++ x.tokens) ∧
      (d.expr = f.disjunction x.expr ∧ d.tokens = ts ++ x.tokens) := by
  obtain ⟨disjunct, conjunct, comparand, ofDisjunct, ofConjunct, ofComparand, rfl⟩ := h
  obtain ⟨q, compared, writtenQ⟩ := ofComparand.exists_phrase x
  obtain ⟨k, joined, writtenK⟩ := ofConjunct.exists_phrase .comparison .and .and
    (fun _ => ⟨rfl, rfl⟩) (fun _ _ => ⟨rfl, rfl⟩) q
  obtain ⟨d, whole, writtenD⟩ := ofDisjunct.exists_phrase .conjunction .or .or
    (fun _ => ⟨rfl, rfl⟩) (fun _ _ => ⟨rfl, rfl⟩) k
  have joined : k.expr = f.conjunction x.expr := by
    rw [joined, compared, Frame.conjunction]
    cases f.conjunct <;> rfl
  have whole : d.expr = f.disjunction x.expr := by
    rw [whole, joined, Frame.disjunction]
    cases f.disjunct <;> rfl
  refine ⟨disjunct, conjunct, q, k, d, ofDisjunct, ofConjunct, ⟨compared, ?_⟩, ⟨joined, ?_⟩,
    ⟨whole, ?_⟩⟩
  · rw [writtenQ]
    simp only [List.append_assoc]
  · rw [writtenK, writtenQ]
    simp only [List.append_assoc]
  · rw [writtenD, writtenK, writtenQ]
    simp only [List.append_assoc]

/-- Whether tokens are what the frames of open parentheses have read. -/
def Outer : List Frame → List Token → Prop
  | [], ts => ts = []
  | f :: outer, ts => ∃ before own, Outer outer before ∧ f.Holds own ∧
      ts = before ++ (own ++ [.lparen])

/-- Whether tokens are what the machine has read. -/
def Reading.Holds : Reading → List Token → Prop
  | operand top outer, ts => ∃ before own, Outer outer before ∧ top.Holds own ∧
      ts = before ++ own
  | operator last top outer, ts => ∃ before own, ∃ x : Phrase .primary, Outer outer before ∧
      top.Holds own ∧ x.expr = last ∧ ts = before ++ (own ++ x.tokens)

theorem Reading.holds_start : Reading.start.Holds [] :=
  ⟨[], [], rfl, Frame.holds_start, rfl⟩

theorem exists_primary_of_name {name : String} (proper : (Token.word name).IsProper) :
    ∃ x : Phrase .primary, x.expr = .ofName name ∧ x.tokens = [.word name] := by
  by_cases isTrue : name = "true"
  · exact ⟨.constant true, by rw [isTrue]; rfl, by rw [isTrue]; rfl⟩
  · by_cases isFalse : name = "false"
    · exact ⟨.constant false, by rw [isFalse]; rfl, by rw [isFalse]; rfl⟩
    · refine ⟨.symbol ⟨name, proper, isTrue, isFalse⟩, ?_, rfl⟩
      rw [Expr.ofName, if_neg isTrue, if_neg isFalse]
      rfl

/-- What has been read stays the beginning of a phrase with every token that is taken. -/
theorem Reading.Holds.step {r r' : Reading} {ts : List Token} {t : Token} (h : r.Holds ts)
    (proper : t.IsProper) (stepped : r.step t = .ok r') : r'.Holds (ts ++ [t]) := by
  cases r with
  | operand top outer =>
      obtain ⟨before, own, ofOuter, ofTop, rfl⟩ := h
      cases t with
      | not =>
          cases stepped
          obtain ⟨disjunct, conjunct, comparand, ofDisjunct, ofConjunct, ofComparand, rfl⟩ := ofTop
          refine ⟨before, _, ofOuter,
            ⟨disjunct, conjunct, comparand, ofDisjunct, ofConjunct, ofComparand, rfl⟩, ?_⟩
          simp only [List.replicate_succ', List.append_assoc]
      | lparen =>
          cases stepped
          refine ⟨_, [], ⟨before, own, ofOuter, ofTop, rfl⟩, Frame.holds_start, ?_⟩
          simp only [List.append_assoc, List.append_nil]
      | word name =>
          cases stepped
          obtain ⟨x, named, written⟩ := exists_primary_of_name proper
          refine ⟨before, own, x, ofOuter, ofTop, named, ?_⟩
          rw [written, List.append_assoc]
      | _ => cases stepped
  | operator last top outer =>
      obtain ⟨before, own, x, ofOuter, ofTop, rfl, rfl⟩ := h
      obtain ⟨disjunct, conjunct, q, k, d, ofDisjunct, ofConjunct, comparison, conjunction,
        disjunction⟩ := ofTop.exists_phrases x
      cases t with
      | or =>
          cases stepped
          refine ⟨before, _, ofOuter, ⟨_, [], [], ⟨d, disjunction.1, rfl⟩, rfl, rfl, rfl⟩, ?_⟩
          simp [disjunction.2]
      | and =>
          cases stepped
          refine ⟨before, _, ofOuter,
            ⟨disjunct, _, [], ofDisjunct, ⟨k, conjunction.1, rfl⟩, rfl, rfl⟩, ?_⟩
          simp [← conjunction.2]
      | eq =>
          cases stepped
          refine ⟨before, _, ofOuter,
            ⟨disjunct, conjunct, _, ofDisjunct, ofConjunct, ⟨q, comparison.1, rfl⟩, rfl⟩, ?_⟩
          simp [← comparison.2]
      | ne =>
          cases stepped
          refine ⟨before, _, ofOuter,
            ⟨disjunct, conjunct, _, ofDisjunct, ofConjunct, ⟨q, comparison.1, rfl⟩, rfl⟩, ?_⟩
          simp [← comparison.2]
      | rparen =>
          cases outer with
          | nil => cases stepped
          | cons f outer =>
              cases stepped
              obtain ⟨before', own', ofOuter', ofFrame, rfl⟩ := ofOuter
              refine ⟨before', own', .parentheses d, ofOuter', ofFrame, disjunction.1, ?_⟩
              simp [Phrase.tokens, disjunction.2]
      | _ => cases outer <;> cases stepped

theorem Reading.Holds.goes {r r' : Reading} {ts us : List Token} (h : r.Holds ts)
    (proper : ∀ t ∈ us, t.IsProper) (goes : r.Goes us r') : r'.Holds (ts ++ us) := by
  induction us generalizing r ts with
  | nil =>
      cases goes
      rw [List.append_nil]
      exact h
  | cons t us ih =>
      obtain ⟨between, stepped, goes⟩ := goes_cons.1 goes
      rw [List.append_cons]
      exact ih (h.step (proper t List.mem_cons_self) stepped)
        (fun u hu => proper u (List.mem_cons_of_mem _ hu)) goes

/-- Tokens that write a condition are those of a disjunction. -/
theorem exists_phrase_of_ofTokens {ts : List Token} {e : Expr} (proper : ∀ t ∈ ts, t.IsProper)
    (h : Expr.ofTokens ts = .ok e) :
    ∃ phrase : Phrase .disjunction, phrase.expr = e ∧ phrase.tokens = ts := by
  have nonempty : ts ≠ [] := by
    rintro rfl
    cases h
  rw [Expr.ofTokens_eq nonempty] at h
  obtain ⟨r, goes, finished⟩ := exists_of_bind_eq_ok h
  have holds := Reading.holds_start.goes proper goes
  cases r with
  | operand top outer => cases finished
  | operator last top outer =>
      cases outer with
      | cons f outer => cases finished
      | nil =>
          cases finished
          obtain ⟨before, own, x, rfl, ofTop, rfl, written⟩ := holds
          obtain ⟨-, -, -, -, d, -, -, -, -, whole, writtenD⟩ := ofTop.exists_phrases x
          exact ⟨d, whole, writtenD.trans written.symm⟩

/-! ## Whole texts -/

/-- A text is read as a condition exactly where it writes a disjunction that is that condition. -/
theorem Expr.parse_eq_ok_iff {text : List Char} {e : Expr} :
    parse text = .ok e ↔
      ∃ phrase : Phrase .disjunction, phrase.expr = e ∧ Token.Spells phrase.tokens text := by
  constructor
  · intro parsed
    unfold parse at parsed
    split at parsed
    · cases parsed
    · next ts scanned =>
      have spells := Token.spells_of_scan scanned
      obtain ⟨phrase, whole, rfl⟩ := exists_phrase_of_ofTokens spells.isProper parsed
      exact ⟨phrase, whole, spells⟩
  · rintro ⟨phrase, rfl, spells⟩
    obtain ⟨reads, apart⟩ := phrase.ofTokens_tokens
    rw [parse, Token.scan_of_spells spells apart]
    exact reads

/-- A text has a value exactly where it writes a disjunction, and then that of the disjunction;
every other text is an error on the line that it stands on. -/
theorem evaluate_phrase (text : String) (defined : SymbolSet) (line : Int) :
    ((∃ value, evaluate text defined line = .ok value) ↔
        ∃ phrase : Phrase .disjunction, phrase.Writes text) ∧
      (∀ phrase : Phrase .disjunction, phrase.Writes text →
        evaluate text defined line = .ok (phrase.value defined)) ∧
      ((¬∃ phrase : Phrase .disjunction, phrase.Writes text) →
        ∃ fault, evaluate text defined line = .error ⟨fault, line⟩) := by
  have computes : ∀ phrase : Phrase .disjunction, phrase.Writes text →
      evaluate text defined line = .ok (phrase.value defined) := by
    intro phrase writes
    rw [evaluate, Expr.parse_eq_ok_iff.2 ⟨phrase, rfl, writes⟩]
    exact congrArg Except.ok (phrase.holds_expr defined)
  cases parsed : Expr.parse text.toList with
  | error fault =>
      have fails : evaluate text defined line = .error ⟨fault, line⟩ := by rw [evaluate, parsed]
      refine ⟨⟨?_, ?_⟩, computes, fun _ => ⟨fault, fails⟩⟩
      · rintro ⟨value, succeeds⟩
        rw [fails] at succeeds
        cases succeeds
      · rintro ⟨phrase, writes⟩
        exact ⟨_, computes phrase writes⟩
  | ok e =>
      obtain ⟨phrase, -, writes⟩ := Expr.parse_eq_ok_iff.1 parsed
      refine ⟨⟨fun _ => ⟨phrase, writes⟩, fun _ => ⟨_, computes phrase writes⟩⟩, computes, ?_⟩
      intro unwritten
      exact absurd ⟨phrase, writes⟩ unwritten

/-- A comparison with a constant that is also the name of a symbol. -/
def Phrase.mixed : Phrase .disjunction :=
  .conjunction <| .comparison <| .compare true
    (.unary (.not (.primary (.symbol ⟨"A", rfl, by decide, by decide⟩))))
    (.primary (.parentheses (.or
      (.conjunction (.comparison (.unary (.primary (.constant false)))))
      (.comparison (.unary (.primary (.symbol ⟨"B", rfl, by decide, by decide⟩)))))))

theorem Phrase.writes_mixed : mixed.Writes "!A ==(false||\u2003B) " := by
  have behind : Token.Spells [] [' '] := .done (List.forall_iff_forall_mem.1 (by decide))
  have operand := ((behind.cons (t := .rparen) trivial).cons (t := .word "B") rfl).cons_blank
    (c := '\u2003') (by decide)
  have inner := (operand.cons (t := .or) trivial).cons (t := .word "false") rfl
  have right := ((inner.cons (t := .lparen) trivial).cons (t := .eq) trivial).cons_blank
    (c := ' ') (by decide)
  exact (right.cons (t := .word "A") rfl).cons (t := .not) trivial

theorem evaluate_phrase_mixed :
    Phrase.mixed.Writes "!A ==(false||\u2003B) " ∧
      evaluate "!A ==(false||\u2003B) " ((∅ : SymbolSet).insert "false") 7 = .ok false :=
  ⟨Phrase.writes_mixed, (evaluate_phrase _ _ 7).2.1 Phrase.mixed Phrase.writes_mixed⟩

end PluginBuild.Directive
