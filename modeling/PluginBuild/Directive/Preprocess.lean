/-
# Directive.Preprocess -- conditional parts of a source text

A line that holds nothing but a keyword after `#` and its argument is a
directive: `#if`, `#elif`, `#else` and `#endif` delimit the branches of a group,
`#define` and `#undef` change the defined symbols.  Directives and the lines of
branches that are not taken are emptied, not removed, so the lines that follow
keep their numbers.  Every directive is checked, also where no line is kept.
-/
import PluginBuild.Directive.Expr
import PluginBuild.Text.Line
import PluginBuild.Text.Word

namespace PluginBuild.Directive

set_option autoImplicit false

open PluginBuild.Text

inductive Keyword where
  | opening
  | alternative
  | fallback
  | closing
  | define
  | undefine
deriving DecidableEq, Repr

/-- The keyword that a word is. -/
def Keyword.ofWord? (word : List Char) : Option Keyword :=
  if word = "if".toList then some .opening
  else if word = "elif".toList then some .alternative
  else if word = "else".toList then some .fallback
  else if word = "endif".toList then some .closing
  else if word = "define".toList then some .define
  else if word = "undef".toList then some .undefine
  else none

/-- A directive: its keyword and what follows it, trimmed. -/
structure Line where
  keyword : Keyword
  argument : List Char
deriving DecidableEq, Repr

/-- The directive on a line, if the line is one.  The keyword follows the `#` at
once and ends where no word character follows. -/
def Line.read? (line : List Char) : Option Line :=
  match trimStart line with
  | '#' :: rest =>
    (Keyword.ofWord? (rest.takeWhile isWordChar)).map fun keyword =>
      ⟨keyword, trim (rest.dropWhile isWordChar)⟩
  | _ => none

structure Group where
  /-- the line of its `#if` -/
  line : Nat
  /-- whether lines around the group are kept -/
  enclosing : Bool
  /-- whether one of its branches has been kept -/
  taken : Bool
  /-- whether its `#else` has been read -/
  last : Bool
deriving DecidableEq, Repr

structure State where
  defined : SymbolSet
  /-- whether the next plain line is kept -/
  active : Bool
  /-- the open groups, the innermost first -/
  groups : List Group
deriving DecidableEq

namespace State

/-- The state before the first line. -/
def start (defined : SymbolSet) : State := ⟨defined, true, []⟩

/-- The truth of a condition in a state. -/
def test (st : State) (condition : List Char) : Except Fault Bool :=
  (Expr.parse condition).map fun e => e.holds st.defined

/-- The state after a directive on line `number`. -/
def apply (st : State) (number : Nat) (line : Line) : Except Fault State :=
  match line.keyword, st.groups with
  | .opening, groups => do
    let value ← st.test line.argument
    let active := st.active && value
    return { st with active, groups := ⟨number, st.active, active, false⟩ :: groups }
  | .alternative, [] => .error .elifOutside
  | .alternative, group :: groups =>
    if group.last then .error .elifOutside
    else do
      let value ← st.test line.argument
      let active := group.enclosing && !group.taken && value
      return { st with active, groups := { group with taken := group.taken || active } :: groups }
  | .fallback, [] => .error .elseOutside
  | .fallback, group :: groups =>
    if group.last then .error .elseOutside
    else .ok { st with
      active := group.enclosing && !group.taken
      groups := { group with taken := true, last := true } :: groups }
  | .closing, [] => .error .endifOutside
  | .closing, group :: groups => .ok { st with active := group.enclosing, groups }
  | .define, _ => do
    let name ← symbolName line.argument
    return if st.active then { st with defined := st.defined.insert name } else st
  | .undefine, _ => do
    let name ← symbolName line.argument
    return if st.active then { st with defined := st.defined.erase name } else st
where
  /-- The symbol that an argument names; constants cannot be defined. -/
  symbolName (argument : List Char) : Except Fault String :=
    let name := String.ofList argument
    if isName argument && name != "true" && name != "false" then .ok name
    else .error (.invalidName name)

end State

/-- What is left of a line that is not kept: the carriage returns and line feeds
at its end. -/
def blank (line : List Char) : List Char :=
  (line.reverse.takeWhile fun c => c == '\r' || c == '\n').reverse

/-- What is kept of the lines from number `number` on. -/
def keep : Nat → State → List (List Char) → Except Error (List Char)
  | _, st, [] =>
    match st.groups with
    | [] => .ok []
    | group :: _ => .error ⟨.unclosed, group.line⟩
  | number, st, line :: rest =>
    match Line.read? line with
    | none => ((if st.active then line else blank line) ++ ·) <$> keep (number + 1) st rest
    | some directive =>
      match st.apply number directive with
      | .error fault => .error ⟨fault, number⟩
      | .ok st => (blank line ++ ·) <$> keep (number + 1) st rest

/-- A source text with its directives applied, starting from the symbols in
`defined`. -/
def preprocess (text : String) (defined : SymbolSet) : Except Error String :=
  String.ofList <$> keep 1 (.start defined) (lines text.toList)

end PluginBuild.Directive
