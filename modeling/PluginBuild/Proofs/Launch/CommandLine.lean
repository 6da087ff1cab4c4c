/-
# Proofs.Launch.CommandLine -- a line holds the arguments that it was made of

Within quotes a character is read back whether it was escaped or not
(`Reading.read_escapeChar`), because the two that mean something there always are.  So each
argument comes back whole, and the blanks between two arguments are the only ones outside
quotes (`split_ofArguments`).  So the command that starts a helper passes the same arguments with
an interpreter in front as without one (`result_command`).
-/
import PluginBuild.Launch.Command
import PluginBuild.Proofs.Act

namespace PluginBuild

set_option autoImplicit false

namespace CommandLine

namespace Reading

variable {done : List String} {read : List Char}

/-- The reading of an argument within its quotes. -/
def within (done : List String) (read : List Char) : Reading := ⟨done, some read, true, false⟩

/-- The reading between two arguments. -/
def between (done : List String) : Reading := ⟨done, none, false, false⟩

theorem read_escapeChar (done : List String) (read : List Char) (c : Char) :
    (escapeChar c).foldl next (within done read) = within done (read ++ [c]) := by
  unfold escapeChar
  by_cases special : special.contains c = true
  · rw [if_pos special]
    rfl
  · rw [if_neg special]
    have noEscape : c ≠ '\\' := by
      rintro rfl
      exact special (by decide)
    have noQuote : c ≠ '"' := by
      rintro rfl
      exact special (by decide)
    simp [next, within, noEscape, noQuote, begun]

theorem read_escaped (done : List String) (read argument : List Char) :
    (argument.flatMap escapeChar).foldl next (within done read) =
      within done (read ++ argument) := by
  induction argument generalizing read with
  | nil => rw [List.append_nil]; rfl
  | cons c argument ih =>
      rw [List.flatMap_cons, List.foldl_append, read_escapeChar, ih, List.append_assoc]
      rfl

/-- A quoted argument is read whole. -/
theorem read_quote (done : List String) (argument : String) :
    (quote argument).toList.foldl next (between done) =
      ⟨done, some argument.toList, false, false⟩ := by
  have opened : next (between done) '"' = within done [] := rfl
  have closed : ∀ read, next (within done read) '"' = ⟨done, some read, false, false⟩ :=
    fun _ => rfl
  rw [quote, String.toList_ofList, List.cons_append, List.foldl_cons, opened, List.foldl_append,
    read_escaped, List.foldl_cons, closed, List.foldl_nil, List.nil_append]

/-- Quoted arguments with blanks between them are read in order. -/
theorem read_arguments (done arguments : List String) :
    let r := ([' '].intercalate (arguments.map fun a => (quote a).toList)).foldl next (between done)
    r.escaped = false ∧ r.inQuotes = false ∧ r.finished = done ++ arguments := by
  induction arguments generalizing done with
  | nil => exact ⟨rfl, rfl, rfl⟩
  | cons a arguments ih =>
      cases arguments with
      | nil =>
          have alone : [' '].intercalate ([a].map fun a => (quote a).toList) =
              (quote a).toList := by
            simp [List.intercalate]
          rw [alone, read_quote]
          refine ⟨rfl, rfl, ?_⟩
          show done ++ [String.ofList a.toList] = done ++ [a]
          rw [String.ofList_toList]
      | cons b arguments =>
          have more : [' '].intercalate ((a :: b :: arguments).map fun a => (quote a).toList) =
              (quote a).toList ++ ' ' ::
                [' '].intercalate ((b :: arguments).map fun a => (quote a).toList) := by
            simp [List.intercalate]
          have separated :
              next ⟨done, some a.toList, false, false⟩ ' ' = between (done ++ [a]) := by
            show between (done ++ [String.ofList a.toList]) = _
            rw [String.ofList_toList]
          rw [more, List.foldl_append, read_quote, List.foldl_cons, separated]
          obtain ⟨escaped, quotes, finished⟩ := ih (done ++ [a])
          exact ⟨escaped, quotes, finished.trans (List.append_assoc ..)⟩

theorem result_of_closed {r : Reading} (escaped : r.escaped = false)
    (quotes : r.inQuotes = false) : r.result = .ok r.finished := by
  rw [result, escaped, quotes]
  rfl

end Reading

/-- Splitting a line gives the arguments that it was made of. -/
theorem split_ofArguments (arguments : List String) :
    split (ofArguments arguments) = .ok arguments := by
  obtain ⟨escaped, quotes, finished⟩ := Reading.read_arguments [] arguments
  rw [split, ofArguments, String.toList_intercalate, List.map_map]
  exact (Reading.result_of_closed escaped quotes).trans (congrArg Except.ok finished)

end CommandLine

/-! ## Commands -/

/-- What stands in front of a helper in the command that starts it. -/
def LaunchMode.front (program : String) : LaunchMode → List String
  | .direct => []
  | .interpreter => [program]

namespace Launch

theorem result_command (interpreter : String) (helper : Path) (platform : Platform)
    (arguments : List String) :
    (command interpreter helper platform arguments ()).result =
      ((mode platform).mapError .launch).map fun mode =>
        mode.front interpreter ++ helper.text :: arguments := by
  have split := CommandLine.split_ofArguments (helper.text :: arguments)
  cases known : mode platform with
  | error cause =>
      simp only [command, Act.result_bind, Act.result_ofExcept, known]
      rfl
  | ok mode =>
      cases mode with
      | direct => simp [command, known, LaunchMode.front, Except.map]
      | interpreter => simp [command, known, split, LaunchMode.front, Except.map]

/-- On a platform with a way to launch there is always a command. -/
theorem exists_command (interpreter : String) (helper : Path) {platform : Platform}
    {launch : LaunchMode} (known : mode platform = .ok launch) (arguments : List String) :
    ∃ all, (command interpreter helper platform arguments ()).result = .ok all := by
  rw [result_command, known]
  exact ⟨_, rfl⟩

/-- Splitting a line gives the arguments that it was made of.  So on every platform with a way to
start a helper the command is the helper and the arguments, each as it is and in order, with at
most the interpreter in front. -/
theorem command_verbatim (arguments : List String) :
    CommandLine.split (CommandLine.ofArguments arguments) = .ok arguments ∧
      ∀ interpreter helper platform,
        (command interpreter helper platform arguments ()).result =
          ((mode platform).mapError .launch).map fun mode =>
            mode.front interpreter ++ helper.text :: arguments :=
  ⟨CommandLine.split_ofArguments arguments,
    fun interpreter helper platform => result_command interpreter helper platform arguments⟩

end Launch

end PluginBuild
