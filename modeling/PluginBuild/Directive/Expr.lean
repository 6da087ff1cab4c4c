/-
# Directive.Expr -- conditions and their meaning

`Expr` is a condition and `Expr.holds` its truth under the defined symbols.  A
condition is read from its tokens by a machine that takes one token at a time
(`Reading.step`): a `Frame` holds what stands to the left of the operand that is
due, one slot per level of precedence, and every open parenthesis puts a new
frame on top.  So `!` binds tightest, then `==` and `!=`, then `&&`, then `||`,
and operators of one level group from the left.
-/
import PluginBuild.Directive.Error
import PluginBuild.SymbolSet

namespace PluginBuild.Directive

set_option autoImplicit false

open PluginBuild.Text

inductive Expr where
  | const (value : Bool)
  | symbol (name : String)
  | not (operand : Expr)
  | eq (left right : Expr)
  | ne (left right : Expr)
  | and (left right : Expr)
  | or (left right : Expr)
deriving DecidableEq, Repr

namespace Expr

/-- Whether a condition holds when exactly the symbols in `defined` are defined. -/
def holds (defined : SymbolSet) : Expr → Bool
  | const value => value
  | symbol name => decide (name ∈ defined)
  | not e => !e.holds defined
  | eq l r => l.holds defined == r.holds defined
  | ne l r => l.holds defined != r.holds defined
  | and l r => l.holds defined && r.holds defined
  | or l r => l.holds defined || r.holds defined

/-- The condition that a name alone stands for. -/
def ofName (name : String) : Expr :=
  if name = "true" then const true
  else if name = "false" then const false
  else symbol name

/-- A condition under `n` negations. -/
def negated : Nat → Expr → Expr
  | 0, e => e
  | n + 1, e => not (negated n e)

end Expr

/-- What has been read to the left of an operand: the pending left side of each
level of operators, and the negations in front of the operand. -/
structure Frame where
  disjunct : Option Expr
  conjunct : Option Expr
  /-- a left side and whether it is compared for equality -/
  comparand : Option (Bool × Expr)
  negations : Nat

namespace Frame

def start : Frame := ⟨none, none, none, 0⟩

def unary (f : Frame) (e : Expr) : Expr := e.negated f.negations

/-- The comparison that ends with the operand. -/
def comparison (f : Frame) (e : Expr) : Expr :=
  match f.comparand with
  | none => f.unary e
  | some (true, l) => .eq l (f.unary e)
  | some (false, l) => .ne l (f.unary e)

/-- The conjunction that ends with the operand. -/
def conjunction (f : Frame) (e : Expr) : Expr :=
  match f.conjunct with
  | none => f.comparison e
  | some l => .and l (f.comparison e)

/-- The disjunction that ends with the operand. -/
def disjunction (f : Frame) (e : Expr) : Expr :=
  match f.disjunct with
  | none => f.conjunction e
  | some l => .or l (f.conjunction e)

end Frame

/-- How far a condition has been read: either an operand is due, or an operand has
just been read and an operator may follow.  `outer` are the frames of the open
parentheses, the innermost first. -/
inductive Reading where
  | operand (top : Frame) (outer : List Frame)
  | operator (last : Expr) (top : Frame) (outer : List Frame)

namespace Reading

def start : Reading := operand .start []

def step : Reading → Token → Except Fault Reading
  | operand top outer, token =>
    match token with
    | .not => .ok (operand { top with negations := top.negations + 1 } outer)
    | .lparen => .ok (operand .start (top :: outer))
    | .word name => .ok (operator (.ofName name) top outer)
    | token => .error (.unexpectedToken token)
  | operator last top outer, token =>
    match token with
    | .or => .ok (operand ⟨some (top.disjunction last), none, none, 0⟩ outer)
    | .and => .ok (operand ⟨top.disjunct, some (top.conjunction last), none, 0⟩ outer)
    | .eq => .ok (operand ⟨top.disjunct, top.conjunct, some (true, top.comparison last), 0⟩ outer)
    | .ne => .ok (operand ⟨top.disjunct, top.conjunct, some (false, top.comparison last), 0⟩ outer)
    | token =>
      match outer, token with
      | [], token => .error (.unexpectedToken token)
      | frame :: outer, .rparen => .ok (operator (top.disjunction last) frame outer)
      | _ :: _, _ => .error .expectedClosing

/-- The condition that has been read, once no token is left. -/
def finish : Reading → Except Fault Expr
  | operator last top [] => .ok (top.disjunction last)
  | _ => .error .incompleteCondition

end Reading

namespace Expr

/-- The condition that some tokens write. -/
def ofTokens : List Token → Except Fault Expr
  | [] => .error .missingCondition
  | tokens => tokens.foldlM Reading.step Reading.start >>= Reading.finish

/-- The condition that a text writes. -/
def parse (text : List Char) : Except Fault Expr :=
  match Token.scan text with
  | .error rest => .error (.unexpectedText (String.ofList (trim rest)))
  | .ok tokens => ofTokens tokens

end Expr

/-- Whether the condition that `text` writes on line `line` holds. -/
def evaluate (text : String) (defined : SymbolSet) (line : Int) : Except Error Bool :=
  match Expr.parse text.toList with
  | .error fault => .error ⟨fault, line⟩
  | .ok e => .ok (e.holds defined)

end PluginBuild.Directive
