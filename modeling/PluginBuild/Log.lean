/-
# Log -- log records and who sees them

A record has a level, the name of its logger and a text.  Loggers of the library
share one root, to which at most one handler is attached; a record reaches it when
its level is not below the threshold of the root.
-/
import PluginBuild.Text.Quoted

namespace PluginBuild.Log

set_option autoImplicit false

inductive Level where
  | debug
  | info
  | warning
  | error
  | critical
deriving DecidableEq, Repr

namespace Level

/-- All levels from the least to the most severe. -/
def all : List Level := [debug, info, warning, error, critical]

def number : Level → Int
  | debug => 10
  | info => 20
  | warning => 30
  | error => 40
  | critical => 50

def name : Level → String
  | debug => "DEBUG"
  | info => "INFO"
  | warning => "WARNING"
  | error => "ERROR"
  | critical => "CRITICAL"

def ofName? (s : String) : Option Level := all.find? fun l => l.name == s

end Level

structure Record where
  level : Level
  logger : String
  text : String
deriving DecidableEq, Repr

/-- The line that a handler writes for a record. -/
def Record.line (r : Record) : String :=
  "[" ++ r.logger ++ "] " ++ r.level.name ++ ": " ++ r.text ++ "\n"

def rootName : String := "scriptloader"

/-- The full name of a logger: under the root, unless it is there already. -/
def loggerName (name : String) : String :=
  if name = rootName ∨ (rootName ++ ".").isPrefixOf name then name else rootName ++ "." ++ name

/-- A threshold as it is asked for. -/
inductive Threshold where
  | named (name : String)
  | number (n : Int)
deriving DecidableEq, Repr

/-- A level name that stands for nothing. -/
structure UnknownLevel where
  name : String
deriving DecidableEq, Repr

/-- The message of an unknown level. -/
def UnknownLevel.message (e : UnknownLevel) : String := "Unknown level: " ++ quoted e.name
where quoted := Text.quoted

def thresholdNames : List (String × Int) :=
  Level.all.map (fun l => (l.name, l.number)) ++ [("WARN", 30), ("FATAL", 50), ("NOTSET", 0)]

def Threshold.number? : Threshold → Except UnknownLevel Int
  | number n => .ok n
  | named name =>
    match thresholdNames.lookup name with
    | some n => .ok n
    | none => .error ⟨name⟩

/-- The threshold where none is set. -/
def defaultThreshold : Int := 30

/-- The state of the root: the stream of its handler, if it has one, and its
threshold, zero where none is set. -/
structure State where
  stream : Option Nat
  threshold : Int
deriving DecidableEq, Repr

namespace State

/-- Nothing is attached and no threshold is set. -/
def fresh : State := ⟨none, 0⟩

/-- Attaches a handler for a stream, unless there is one, and then sets the
threshold. -/
def configure (st : State) (stream : Nat) (threshold : Threshold) : Except UnknownLevel Unit × State :=
  let attached := { st with stream := some (st.stream.getD stream) }
  match threshold.number? with
  | .ok n => (.ok (), { attached with threshold := n })
  | .error e => (.error e, attached)

/-- Whether a record of a level passes the threshold. -/
def passes (st : State) (level : Level) : Bool :=
  decide ((if st.threshold = 0 then defaultThreshold else st.threshold) ≤ level.number)

end State

end PluginBuild.Log
