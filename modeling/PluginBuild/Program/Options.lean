/-
# Program.Options -- the options of a program

Options are words that start with a dash; what follows is read from left to right.

* A long option may be cut short as long as it stays the only one that starts so.
* A value stands behind `=` or in the next word; short options may be joined in one
  word, the value of the last directly behind its letter.
* After `--` there are no options, and behind `=` it is no value.  A dash alone, a
  negative number and a word with a blank are no options either, unless an option is
  called so.

The programs here take nothing but options, so any other word is refused at the end.
-/
import PluginBuild.Number.Integer
import PluginBuild.Text.Digit
import PluginBuild.Text.Quoted

namespace PluginBuild.Options

set_option autoImplicit false

open PluginBuild.Text

/-- What the value of an option may be. -/
inductive ValueKind where
  | text
  | integer
  | choice (among : List String)
deriving DecidableEq, Repr

inductive Effect where
  | flag
  | help
  | value (kind : ValueKind)
deriving DecidableEq, Repr

structure Spec where
  /-- its names, the one that it is looked up by last -/
  names : List String
  effect : Effect
  required : Bool
deriving DecidableEq, Repr

def Spec.title (spec : Spec) : String := "/".intercalate spec.names

/-- The name that an option is looked up by. -/
def Spec.key (spec : Spec) : String := spec.names.getLastD ""

/-- What can be wrong with the words given to a program. -/
inductive Fault where
  | ambiguous (word : String) (candidates : List String)
  | missingValue (spec : Spec)
  /-- a value for an option that takes none -/
  | extraValue (spec : Spec) (value : String)
  | notInteger (spec : Spec) (value : String)
  | noChoice (spec : Spec) (value : String) (among : List String)
  | missing (specs : List Spec)
  | unrecognised (words : List String)
deriving DecidableEq, Repr

def about (spec : Spec) (text : String) : String := "argument " ++ spec.title ++ ": " ++ text

def Fault.message : Fault → String
  | .ambiguous word candidates =>
    "ambiguous option: " ++ word ++ " could match " ++ ", ".intercalate candidates
  | .missingValue spec => about spec "expected one argument"
  | .extraValue spec value => about spec ("ignored explicit argument " ++ quoted value)
  | .notInteger spec value => about spec ("invalid int value: " ++ quoted value)
  | .noChoice spec value among =>
    about spec ("invalid choice: " ++ quoted value ++ " (choose from "
      ++ ", ".intercalate (among.map quoted) ++ ")")
  | .missing specs =>
    "the following arguments are required: " ++ ", ".intercalate (specs.map Spec.title)
  | .unrecognised words => "unrecognized arguments: " ++ " ".intercalate words

/-! ## What each word is -/

inductive Word where
  | plain (text : String)
  /-- an option, the name that it is called by, and what the word attaches to it -/
  | option (spec : Spec) (name : String) (attached : Option (List Char))
  /-- what looks like an option but is none -/
  | unknown (text : String)
deriving DecidableEq, Repr

/-- The names of all options, each with its option. -/
def table (specs : List Spec) : List (String × Spec) :=
  specs.flatMap fun spec => spec.names.map fun name => (name, spec)

/-- A word up to its first `=`, and what is behind it. -/
def cutEquals (word : List Char) : List Char × Option (List Char) :=
  let name := word.takeWhile (· != '=')
  match word.drop name.length with
  | [] => (name, none)
  | _ :: text => (name, some text)

/-- The options that a word may be short for. -/
def candidates (specs : List Spec) (word : List Char) : 
    List (String × Spec × Option (List Char)) :=
  match word with
  | '-' :: '-' :: _ =>
    let (start, attached) := cutEquals word
    (table specs).filterMap fun (name, spec) =>
      if start.isPrefixOf name.toList then some (name, spec, attached) else none
  | '-' :: letter :: text =>
    (table specs).filterMap fun (name, spec) =>
      if name.toList = ['-', letter] then some (name, spec, some text)
      else if word.isPrefixOf name.toList then some (name, spec, none)
      else none
  | _ => []

/-- Whether some characters are digits, and there is one. -/
def areDigits (s : List Char) : Bool := !s.isEmpty && s.all fun c => (digitValue c).isSome

/-- Whether a word is a negative number.  One line feed may follow it. -/
def isNegativeNumber : List Char → Bool
  | '-' :: rest =>
    let number := if rest.getLast? = some '\n' then rest.dropLast else rest
    let whole := number.takeWhile (· != '.')
    match number.drop whole.length with
    | [] => areDigits whole
    | _ :: fraction => (whole.isEmpty || areDigits whole) && areDigits fraction
  | _ => false

/-- What a word in front of `--` is. -/
def classify (specs : List Spec) (word : String) : Except Fault Word :=
  match word.toList with
  | '-' :: rest =>
    let (start, attached) := cutEquals word.toList
    match (table specs).lookup word, (table specs).lookup (String.ofList start) with
    | some spec, _ => .ok (.option spec word none)
    | none, some spec => .ok (.option spec (String.ofList start) attached)
    | none, none =>
      match rest, candidates specs word.toList with
      | [], _ => .ok (.plain word)
      | _, [(name, spec, attached)] => .ok (.option spec name attached)
      | _, first :: second :: more =>
        .error (.ambiguous word ((first :: second :: more).map fun c => c.1))
      | _, [] =>
        if isNegativeNumber word.toList || word.toList.contains ' ' then .ok (.plain word)
        else .ok (.unknown word)
  | _ => .ok (.plain word)

/-- The words in front of `--`, and those from it on, which are no options. -/
def classifyAll (specs : List Spec) (words : List String) : Except Fault (List Word × List String) := do
  let front := words.takeWhile (· != "--")
  return (← front.mapM (classify specs), words.drop front.length)

/-! ## What the words say -/

/-- What one word with an option says. -/
inductive Part where
  | flag (spec : Spec)
  | value (spec : Spec) (text : String)
deriving DecidableEq, Repr

/-- The parts of a short option with the rest of its word, and the option whose value
the next word is, if there is one.  Characters behind an option without a value are
short options themselves. -/
def joined (specs : List Spec) (spec : Spec) : List Char → Except Fault (List Part × Option Spec)
  | [] =>
    match spec.effect with
    | .value _ => .ok ([], some spec)
    | _ => .ok ([.flag spec], none)
  | letter :: rest =>
    match spec.effect, (table specs).lookup (String.ofList ['-', letter]) with
    | .value _, _ => .ok ([.value spec (String.ofList (letter :: rest))], none)
    | _, some next => (joined specs next rest).map fun (more, owed) => (.flag spec :: more, owed)
    | _, none => .error (.extraValue spec (String.ofList (letter :: rest)))

/-- The parts of a word that calls an option, and the option whose value the next word
is, if there is one. -/
def parts (specs : List Spec) (spec : Spec) (short : Bool) :
    Option (List Char) → Except Fault (List Part × Option Spec)
  | none => joined specs spec []
  | some text =>
    match spec.effect with
    | .value _ => .ok ([.value spec (String.ofList text)], none)
    | _ =>
      if short && !text.isEmpty then joined specs spec text
      else .error (.extraValue spec (String.ofList text))

structure Reading where
  /-- the options given, in order, with their values -/
  given : List (String × List String)
  /-- the words that say nothing -/
  extras : List String
deriving DecidableEq, Repr

/-- Why a program does not run. -/
inductive Stop where
  /-- help was asked for -/
  | help
  | fault (cause : Fault)
deriving DecidableEq, Repr

/-- Refuses a value of the wrong kind. -/
def check (spec : Spec) (value : String) : Except Stop Unit :=
  match spec.effect with
  | .value .integer =>
    if (Number.Integer.parse? value).isSome then .ok () else .error (.fault (.notInteger spec value))
  | .value (.choice among) =>
    if among.contains value then .ok () else .error (.fault (.noChoice spec value among))
  | _ => .ok ()

/-- The values that a text attached to an option stands for.  The mark that ends the
options is no value. -/
def valuesOf (text : String) : List String := if text = "--" then [] else [text]

/-- Takes parts in order; asking for help ends it. -/
def take (r : Reading) : List Part → Except Stop Reading
  | [] => .ok r
  | .flag spec :: rest =>
    if spec.effect = .help then .error .help
    else take { r with given := r.given ++ [(spec.key, [])] } rest
  | .value spec text :: rest => do
    (valuesOf text).forM (check spec)
    take { r with given := r.given ++ [(spec.key, valuesOf text)] } rest

/-- Reads words one after the other. -/
def readAll (specs : List Spec) (r : Reading) : List Word → Except Stop Reading
  | [] => .ok r
  | .plain text :: rest => readAll specs { r with extras := r.extras ++ [text] } rest
  | .unknown text :: rest => readAll specs { r with extras := r.extras ++ [text] } rest
  | .option spec name attached :: rest =>
    match parts specs spec (!"--".isPrefixOf name) attached with
    | .error fault => .error (.fault fault)
    | .ok (said, none) => do readAll specs (← take r said) rest
    | .ok (said, some owed) =>
      match rest with
      | .plain text :: rest => do readAll specs (← take r (said ++ [.value owed text])) rest
      | _ => .error (.fault (.missingValue owed))

/-- What was asked of a program. -/
structure Request where
  given : List (String × List String)
deriving DecidableEq, Repr

namespace Request

def has (r : Request) (key : String) : Bool := (r.given.lookup key).isSome

/-- The values of an option as it was given last: one, or none where no text stands
for a value. -/
def values? (r : Request) (key : String) : Option (List String) := r.given.reverse.lookup key

/-- The value of an option as it was given last. -/
def value? (r : Request) (key : String) : Option String := (r.values? key).bind List.head?

end Request

/-- Reads the words given to a program. -/
def parse (specs : List Spec) (words : List String) : Except Stop Request := do
  let (front, back) ← (classifyAll specs words).mapError .fault
  let r ← readAll specs ⟨[], []⟩ front
  match specs.filter fun spec => spec.required && (r.given.lookup spec.key).isNone with
  | first :: more => throw (.fault (.missing (first :: more)))
  | [] =>
    match r.extras ++ back with
    | [] => return ⟨r.given⟩
    | extras => throw (.fault (.unrecognised extras))

/-! ## What a program says of itself -/

structure Manual where
  program : String
  usage : String
  /-- what help shows below the usage -/
  description : String
  specs : List Spec
deriving DecidableEq, Repr

namespace Manual

def helpSpec : Spec := ⟨["-h", "--help"], .help, false⟩

def help (m : Manual) : String := m.usage ++ "\n" ++ m.description

/-- The text that refuses a fault. -/
def refusal (m : Manual) (fault : Fault) : String :=
  m.usage ++ m.program ++ ": error: " ++ fault.message ++ "\n"

end Manual

end PluginBuild.Options
