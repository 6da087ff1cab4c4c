/-
# Proofs.Directive.Physical -- directives and the lines of the file

A text is preprocessed by its own lines, and not only line feeds end these.  So long as no other
line end cuts a directive off a line of the file, or out of one (`Line.IsWhole`), going through
the lines of the file keeps the same and fails for the same directive (`preprocessPhysical`,
`preprocess_eq_mapError`).  What differs is the number of the line: an error counts line ends of
all kinds in front of the directive, where an editor counts line feeds (`preprocess_physical`).
-/
import PluginBuild.Proofs.Directive.Block
import PluginBuild.Proofs.Directive.Outline
import PluginBuild.Proofs.Text.Line
import PluginBuild.Source.Read
import Mathlib.Data.List.TakeWhile

namespace PluginBuild.Directive

set_option autoImplicit false

open PluginBuild.Text

/-- A source text with its directives applied, where only line feeds end a line. -/
def preprocessPhysical (text : String) (defined : SymbolSet) : Except Error String :=
  String.ofList <$> keep 1 (.start defined) (physicalLines text.toList)

/-- Whether other line ends make no difference to what a line of a file is: none cuts it, or
neither it nor what it is cut into is a directive. -/
def Line.IsWhole (line : List Char) : Prop :=
  lines line = [line] ∨ Line.read? line = none ∧ ∀ part ∈ lines line, Line.read? part = none

instance (line : List Char) : Decidable (Line.IsWhole line) := inferInstanceAs (Decidable (_ ∨ _ ∧ _))

variable {line : List Char} {ls : List (List Char)} {f : Nat → Nat}

/-! ## Lines that are no directives -/

theorem passes_plains (reads : ∀ l ∈ ls, Line.read? l = none) (st : State) :
    Passes st ls (if st.active then ls.flatten else blankAll ls) st := by
  induction ls with
  | nil => cases st.active <;> exact passes_nil st
  | cons l ls ih =>
      have rest := ih fun l' among => reads l' (List.mem_cons_of_mem _ among)
      have passes := rest.plain (reads l List.mem_cons_self)
      cases active : st.active with
      | true =>
          rw [active] at passes
          exact passes
      | false =>
          rw [active] at passes
          exact passes

theorem keep_plains (reads : ∀ l ∈ ls, Line.read? l = none) (defined : SymbolSet) :
    keep 1 (.start defined) ls = .ok ls.flatten := by
  have passes := passes_plains reads (.start defined) 1 []
  rw [List.append_nil] at passes
  rw [passes, State.start, if_pos rfl, keep]
  exact congrArg Except.ok (List.append_nil _)

/-- What is left of a line that is not kept is its line feed. -/
theorem blank_eq_filter (noReturn : '\r' ∉ line) (feeds : '\n' ∉ line.dropLast) :
    blank line = line.filter (· == '\n') := by
  rcases List.eq_nil_or_concat line with rfl | ⟨body, c, rfl⟩
  · rfl
  · rw [List.concat_eq_append] at *
    rw [List.dropLast_concat] at feeds
    have noReturn' : '\r' ∉ body := fun among => noReturn (List.mem_append_left _ among)
    have notReturn : c ≠ '\r' := by
      rintro rfl
      exact noReturn (List.mem_append_right _ List.mem_cons_self)
    have noEnds : body.reverse.takeWhile (fun c => c == '\r' || c == '\n') = [] := by
      rw [List.takeWhile_eq_nil_iff]
      intro long ends
      have among := List.mem_reverse.1 (List.getElem_mem long)
      rcases Bool.or_eq_true_iff.1 ends with isReturn | isFeed
      · exact noReturn' (beq_iff_eq.1 isReturn ▸ among)
      · exact feeds (beq_iff_eq.1 isFeed ▸ among)
    have noFeeds : body.filter (· == '\n') = [] := by
      rw [List.filter_eq_nil_iff]
      intro d among isFeed
      exact feeds (beq_iff_eq.1 isFeed ▸ among)
    rw [blank, List.reverse_append, List.reverse_singleton, List.singleton_append,
      List.takeWhile_cons, beq_false_of_ne notReturn, Bool.false_or, noEnds, List.filter_append,
      noFeeds, List.nil_append, List.filter_singleton]
    cases c == '\n' <;> rfl

/-- Cutting a line further leaves the same of it where it is not kept. -/
theorem blankAll_lines (noReturn : '\r' ∉ line) (feeds : '\n' ∉ line.dropLast) :
    blankAll (lines line) = blank line := by
  have parts : ∀ part ∈ lines line, blank part = part.filter (· == '\n') := by
    intro part among
    refine blank_eq_filter (fun isReturn => noReturn ?_) (not_mem_dropLast_lines among)
    rw [← flatten_lines line]
    exact List.mem_flatten_of_mem among isReturn
  calc blankAll (lines line)
      = (lines line).flatMap (List.filter (· == '\n')) := List.flatMap_congr parts
    _ = (lines line).flatten.filter (· == '\n') := by rw [List.filter_flatten, List.flatMap_def]
    _ = blank line := by rw [flatten_lines, blank_eq_filter noReturn feeds]

/-- A line that is cut into no directives passes like the line. -/
theorem passes_parts (noReturn : '\r' ∉ line) (feeds : '\n' ∉ line.dropLast)
    (reads : ∀ part ∈ lines line, Line.read? part = none) (st : State) :
    Passes st (lines line) (if st.active then line else blank line) st := by
  have passes := passes_plains reads st
  rwa [flatten_lines, blankAll_lines noReturn feeds] at passes

/-! ## Other numbers -/

/-- A state in which the lines have other numbers. -/
def State.renumber (f : Nat → Nat) (st : State) : State :=
  { st with groups := st.groups.map fun g => { g with line := f g.line } }

/-- An error where the lines have other numbers. -/
def Error.renumber (f : Nat → Nat) (e : Error) : Error := ⟨e.fault, f e.line.toNat⟩

/-- The numbers of lines are passed on and never looked at. -/
theorem apply_renumber (f : Nat → Nat) (number : Nat) (d : Line) (st : State) :
    (st.renumber f).apply (f number) d = (st.apply number d).map (State.renumber f) := by
  obtain ⟨keyword, argument⟩ := d
  obtain ⟨defined, active, groups⟩ := st
  cases keyword with
  | opening =>
      simp only [State.apply, test_eq]
      cases Expr.parse argument <;> rfl
  | alternative =>
      cases groups with
      | nil => rfl
      | cons group groups =>
          obtain ⟨opens, enclosing, taken, last⟩ := group
          cases last with
          | true => rfl
          | false =>
              simp only [State.apply, State.renumber, List.map_cons, test_eq]
              cases Expr.parse argument <;> rfl
  | fallback =>
      cases groups with
      | nil => rfl
      | cons group groups =>
          obtain ⟨opens, enclosing, taken, last⟩ := group
          cases last <;> rfl
  | closing => cases groups <;> rfl
  | define | undefine =>
      simp only [State.apply]
      cases State.apply.symbolName argument with
      | error fault => rfl
      | ok name => cases active <;> rfl

theorem map_mapError {ε ε' : Type} (g : ε → ε') (front : List Char) (x : Except ε (List Char)) :
    (front ++ ·) <$> x.mapError g = ((front ++ ·) <$> x).mapError g := by
  cases x <;> rfl

/-- Where other line ends make no difference, cutting lines at them changes only the numbers of
the lines: `f` gives the number that the first part of each has. -/
theorem keep_flatMap_lines (whole : ∀ l ∈ ls, Line.IsWhole l) (noReturn : ∀ l ∈ ls, '\r' ∉ l)
    (feeds : ∀ l ∈ ls, '\n' ∉ l.dropLast) {number first : Nat}
    (numbers : ∀ i, f (number + i) = first + ((ls.take i).flatMap lines).length) (st : State) :
    keep first (st.renumber f) (ls.flatMap lines) =
      (keep number st ls).mapError (Error.renumber f) := by
  induction ls generalizing number first st with
  | nil =>
      obtain ⟨defined, active, groups⟩ := st
      cases groups <;> rfl
  | cons l ls ih =>
      have here : f number = first := numbers 0
      have behind : ∀ i, f (number + 1 + i) =
          first + (lines l).length + ((ls.take i).flatMap lines).length := by
        intro i
        rw [Nat.add_assoc, Nat.add_comm 1 i, numbers, List.take_succ_cons, List.flatMap_cons,
          List.length_append, Nat.add_assoc]
      have rest := fun st' => ih (fun l' among => whole l' (List.mem_cons_of_mem _ among))
        (fun l' among => noReturn l' (List.mem_cons_of_mem _ among))
        (fun l' among => feeds l' (List.mem_cons_of_mem _ among)) behind st'
      rw [List.flatMap_cons]
      rcases whole l List.mem_cons_self with uncut | ⟨reads, parts⟩
      · rw [uncut, List.length_singleton] at rest
        rw [uncut, List.singleton_append, keep, keep]
        cases Line.read? l with
        | none =>
            simp only [rest, map_mapError]
            rfl
        | some d =>
            rw [← here]
            simp only [apply_renumber]
            cases st.apply number d with
            | error fault => rfl
            | ok next =>
                rw [here]
                exact (congrArg _ (rest next)).trans (map_mapError _ _ _)
      · have passes := passes_parts (noReturn l List.mem_cons_self) (feeds l List.mem_cons_self)
          parts (st.renumber f)
        rw [passes, rest, map_mapError, keep, reads]
        rfl

/-! ## Whole texts -/

/-- The number that a line of a file has among the lines of its text. -/
def textNumber (ls : List (List Char)) (number : Nat) : Nat :=
  1 + ((ls.take (number - 1)).flatMap lines).length

/-- Where other line ends make no difference, preprocessing goes through the lines of the file,
and only numbers its errors otherwise. -/
theorem preprocess_eq_mapError {text : String} (noReturn : '\r' ∉ text.toList)
    (whole : ∀ l ∈ physicalLines text.toList, Line.IsWhole l) (defined : SymbolSet) :
    preprocess text defined = (preprocessPhysical text defined).mapError
      (Error.renumber (textNumber (physicalLines text.toList))) := by
  have noReturns : ∀ l ∈ physicalLines text.toList, '\r' ∉ l :=
    fun l among => not_mem_of_mem_physicalLines noReturn among
  have numbers : ∀ i, textNumber (physicalLines text.toList) (1 + i) =
      1 + (((physicalLines text.toList).take i).flatMap lines).length := by
    intro i
    rw [textNumber, Nat.add_sub_cancel_left]
  have kept := keep_flatMap_lines whole noReturns (fun l among => not_mem_dropLast_physicalLines among)
    numbers (.start defined)
  rw [preprocess, preprocessPhysical, lines_eq_flatMap noReturn,
    show keep 1 (.start defined) ((physicalLines text.toList).flatMap lines) = _ from kept]
  cases keep 1 (.start defined) (physicalLines text.toList) <;> rfl

/-- A source is read without carriage returns. -/
theorem noReturn_of_decode {bytes : List UInt8} {text : String}
    (read : Source.decode bytes = .ok text) : '\r' ∉ text.toList := by
  obtain ⟨s, -, rfl⟩ := exists_of_map_eq_ok read
  rw [String.toList_ofList]
  exact not_mem_normalizeNewlines s

theorem preprocessPhysical_plain {text : String}
    (reads : ∀ l ∈ physicalLines text.toList, Line.read? l = none) (defined : SymbolSet) :
    preprocessPhysical text defined = .ok text := by
  rw [preprocessPhysical, keep_plains reads, flatten_physicalLines]
  exact congrArg Except.ok String.ofList_toList

theorem count_le_countP (l : List Char) : l.count '\n' ≤ l.countP isLineEnd := by
  refine List.countP_mono_left ?_
  intro c _ feed
  rw [beq_iff_eq.1 feed]
  decide

/-- There are more line ends than line feeds exactly if there are others. -/
theorem countP_eq_count_iff {l : List Char} :
    l.countP isLineEnd = l.count '\n' ↔ ∀ c ∈ l, isLineEnd c = true → c = '\n' := by
  induction l with
  | nil => exact iff_of_true rfl fun c among => absurd among List.not_mem_nil
  | cons c l ih =>
      have fewer := count_le_countP l
      rw [List.countP_cons, List.count_cons, List.forall_mem_cons, ← ih]
      by_cases feed : c = '\n'
      · subst feed
        simp [show isLineEnd '\n' = true by decide]
      · by_cases ends : isLineEnd c = true
        · simp only [ends, if_true, beq_iff_eq, feed, if_false, forall_const, false_and, iff_false]
          omega
        · simp [ends, feed]

/-- Where other line ends make no difference to the lines of a file, preprocessing is going
through these lines: it keeps the same, leaves a text without directives as it is, and fails for
the same line of the file.  The number in its error counts all line ends in front of that line,
which is the number of the line exactly if only line feeds stand there. -/
theorem preprocess_physical {text : String} (noReturn : '\r' ∉ text.toList)
    (whole : ∀ l ∈ physicalLines text.toList, Line.IsWhole l) (defined : SymbolSet) :
    (∀ out, preprocess text defined = .ok out ↔ preprocessPhysical text defined = .ok out) ∧
      ((∀ l ∈ physicalLines text.toList, Line.read? l = none) →
        preprocess text defined = .ok text) ∧
      ∀ e, preprocess text defined = .error e →
        ∃ before line after, physicalLines text.toList = before ++ line :: after ∧
          Offends before line after e.fault ∧
          preprocessPhysical text defined =
            .error ⟨e.fault, (before.flatten.count '\n' + 1 : Nat)⟩ ∧
          e.line = (before.flatten.countP isLineEnd + 1 : Nat) ∧
          (e.line = (before.flatten.count '\n' + 1 : Nat) ↔
            ∀ c ∈ before.flatten, isLineEnd c = true → c = '\n') := by
  have same := preprocess_eq_mapError noReturn whole defined
  have agrees : ∀ out, preprocess text defined = .ok out ↔
      preprocessPhysical text defined = .ok out := by
    intro out
    rw [same]
    cases preprocessPhysical text defined <;> simp
  refine ⟨agrees, fun reads => (agrees text).2 (preprocessPhysical_plain reads defined), ?_⟩
  intro e fails
  rw [same] at fails
  cases physical : preprocessPhysical text defined with
  | ok out =>
      rw [physical] at fails
      cases fails
  | error e' =>
      rw [physical] at fails
      cases fails
      have checked : check (physicalLines text.toList) = .error e' :=
        keep_eq_error_iff.1 (map_eq_error_iff.1 physical)
      obtain ⟨before, line, after, split, offends, stands⟩ := exists_offending checked
      have ended := isEnded_of_physicalLines split
      have noReturns : ∀ p ∈ before, '\r' ∉ p := by
        intro p among
        refine not_mem_of_mem_physicalLines noReturn ?_
        rw [split]
        exact List.mem_append_left _ among
      have counted : textNumber (physicalLines text.toList) e'.line.toNat =
          before.flatten.countP isLineEnd + 1 := by
        rw [← length_lines_eq_countP ended noReturns, stands, split, Int.toNat_natCast, textNumber,
          Nat.add_sub_cancel, List.take_left, Nat.add_comm]
      refine ⟨before, line, after, split, offends, ?_, ?_, ?_⟩
      · rw [← length_eq_count ended, ← stands]
        rfl
      · exact congrArg Nat.cast counted
      · show ((textNumber _ _ : Nat) : Int) = _ ↔ _
        rw [counted, Int.natCast_inj, Nat.add_right_cancel_iff, countP_eq_count_iff]

-- every character behind the `#` is looked up in the table of letters and numbers
set_option maxRecDepth 4000 in
/-- A form feed on a line of its own moves the error behind it down by a line. -/
theorem preprocess_physical_formFeed :
    '\r' ∉ "\x0c\n#endif\n".toList ∧
      (∀ l ∈ physicalLines "\x0c\n#endif\n".toList, Line.IsWhole l) ∧
      preprocess "\x0c\n#endif\n" ∅ = .error ⟨.endifOutside, 3⟩ ∧
      ∃ before line after,
        physicalLines "\x0c\n#endif\n".toList = before ++ line :: after ∧
          Offends before line after .endifOutside ∧
          preprocessPhysical "\x0c\n#endif\n" ∅ =
            .error ⟨.endifOutside, (before.flatten.count '\n' + 1 : Nat)⟩ ∧
          (3 : Int) = (before.flatten.countP isLineEnd + 1 : Nat) := by
  have noReturn : '\r' ∉ "\x0c\n#endif\n".toList := by decide
  have whole : ∀ l ∈ physicalLines "\x0c\n#endif\n".toList, Line.IsWhole l := by decide
  have fails : preprocess "\x0c\n#endif\n" ∅ = .error ⟨.endifOutside, 3⟩ := by rfl
  obtain ⟨before, line, after, split, offends, physical, stands, -⟩ :=
    (preprocess_physical noReturn whole ∅).2.2 _ fails
  exact ⟨noReturn, whole, fails, before, line, after, split, offends, physical, stands⟩

set_option maxRecDepth 4000 in
/-- A form feed in a literal makes a directive of what stands behind it. -/
theorem preprocess_formFeed_cuts :
    '\r' ∉ "x = 'a\x0c#endif'\n".toList ∧
      (∀ l ∈ physicalLines "x = 'a\x0c#endif'\n".toList, Line.read? l = none) ∧
      preprocessPhysical "x = 'a\x0c#endif'\n" ∅ = .ok "x = 'a\x0c#endif'\n" ∧
      preprocess "x = 'a\x0c#endif'\n" ∅ = .error ⟨.endifOutside, 2⟩ := by
  have reads : ∀ l ∈ physicalLines "x = 'a\x0c#endif'\n".toList, Line.read? l = none := by decide
  exact ⟨by decide, reads, preprocessPhysical_plain reads ∅, rfl⟩

end PluginBuild.Directive
