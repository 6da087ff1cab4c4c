/-
# Proofs.Directive.Numbering -- preprocessing and the numbers of lines

What is left of a line is the line or the carriage returns and line feeds at its end, so in both
cases its line feed (`count_left`).  A text is cut at other characters too, and a piece that one
of these ends may vanish; but as no line feed does, the rows of the text only lose characters
(`keep_thins`).  Where nothing but line feeds end lines, a row is kept whole or emptied, and the
directives above it say which (`rows_of_keep`).  Code that is left has the number that it had
(`preprocess_rows`).
-/
import PluginBuild.Proofs.Directive.Physical
import Mathlib.Data.List.Forall2

namespace PluginBuild.Directive

set_option autoImplicit false

open PluginBuild.Text

variable {line ending body row rest out : List Char} {ls : List (List Char)} {st : State}
  {number : Nat}

/-! ## The end of a line -/

theorem isBlank_of_isLineEnd {c : Char} (ends : isLineEnd c = true) :
    isBlank c = true ∧ isWordChar c = false := by
  -- every line end is looked up in the table of letters and numbers
  have all : lineEndChars.all (fun c => isBlank c && !isWordChar c) = true := by decide +kernel
  simpa using List.all_eq_true.1 all c (isLineEnd_iff.1 ends)

theorem while_append {p : Char → Bool} (other : ∀ c ∈ ending, p c = false) (l : List Char) :
    (l ++ ending).takeWhile p = l.takeWhile p ∧
      (l ++ ending).dropWhile p = l.dropWhile p ++ ending := by
  induction l with
  | nil =>
      cases ending with
      | nil => exact ⟨rfl, rfl⟩
      | cons c ending => simp [other c List.mem_cons_self]
  | cons c l ih => by_cases taken : p c = true <;> simp [taken, ih]

theorem trimStart_append (blank : ∀ c ∈ ending, isBlank c = true) (l : List Char) :
    trimStart l = [] ∧ trimStart (l ++ ending) = [] ∨
      trimStart l ≠ [] ∧ trimStart (l ++ ending) = trimStart l ++ ending := by
  have gone : ending.dropWhile isBlank = [] := List.dropWhile_eq_nil_iff.2 blank
  unfold trimStart
  by_cases all : l.dropWhile isBlank = []
  · exact .inl ⟨all, by rw [List.dropWhile_append, all, List.isEmpty_nil, if_pos rfl, gone]⟩
  · exact .inr ⟨all, by rw [List.dropWhile_append, if_neg (by simpa using all)]⟩

theorem trim_append (blank : ∀ c ∈ ending, isBlank c = true) (l : List Char) :
    trim (l ++ ending) = trim l := by
  have gone : ∀ c ∈ ending.reverse, isBlank c = true := fun c among =>
    blank c (List.mem_reverse.1 among)
  rcases trimStart_append blank l with ⟨all, all'⟩ | ⟨-, same⟩
  · rw [trim, all', trim, all]
  · rw [trim, same, trim, trimEnd, List.reverse_append, List.dropWhile_append_of_pos gone, trimEnd]

theorem read?_eq_none {c : Char} (starts : trimStart line = c :: rest) (other : c ≠ '#') :
    Line.read? line = none := by
  rw [Line.read?, starts]
  split
  · next same => exact absurd (List.cons.inj same).1 other
  · rfl

/-- A line is the directive that it is without the characters that end it. -/
theorem read?_append (ends : ∀ c ∈ ending, isLineEnd c = true) (body : List Char) :
    Line.read? (body ++ ending) = Line.read? body := by
  have blank : ∀ c ∈ ending, isBlank c = true := fun c among =>
    (isBlank_of_isLineEnd (ends c among)).1
  have word := while_append fun c among => (isBlank_of_isLineEnd (ends c among)).2
  rcases trimStart_append blank body with ⟨all, all'⟩ | ⟨nonempty, same⟩
  · rw [Line.read?, all', Line.read?, all]
  · obtain ⟨c, rest, starts⟩ := List.exists_cons_of_ne_nil nonempty
    rw [starts, List.cons_append] at same
    by_cases hash : c = '#'
    · subst hash
      rw [Line.read?, same, Line.read?, starts]
      simp only [word, trim_append blank]
    · rw [read?_eq_none same hash, read?_eq_none starts hash]

/-! ## One line after the other -/

namespace State

/-- The state behind a line. -/
def next (number : Nat) (st : State) (line : List Char) : Except Fault State :=
  match Line.read? line with
  | none => .ok st
  | some d => st.apply number d

/-- The state behind lines of which the first has the number `number`. -/
def behind (number : Nat) (st : State) : List (List Char) → Except Fault State
  | [] => .ok st
  | line :: rest =>
    match st.next number line with
    | .error fault => .error fault
    | .ok st => st.behind (number + 1) rest

/-- Whether a line is kept: it is no directive, and the branch around it is taken. -/
def keeps (st : State) (line : List Char) : Bool := (Line.read? line).isNone && st.active

/-- What is left of a line. -/
def left (st : State) (line : List Char) : List Char := if st.keeps line then line else blank line

/-- What is left of a row: the row or nothing. -/
def leftOfRow (st : State) (row : List Char) : List Char := if st.keeps row then row else []

end State

theorem keep_cons (number : Nat) (st : State) (line : List Char) (ls : List (List Char)) :
    keep number st (line :: ls) =
      match st.next number line with
      | .error fault => .error ⟨fault, number⟩
      | .ok next => (st.left line ++ ·) <$> keep (number + 1) next ls := by
  rw [keep, State.next, State.left, State.keeps]
  cases Line.read? line <;> rfl

theorem exists_of_keep_cons (done : keep number st (line :: ls) = .ok out) :
    ∃ next more, st.next number line = .ok next ∧ keep (number + 1) next ls = .ok more ∧
      out = st.left line ++ more := by
  rw [keep_cons] at done
  cases next : st.next number line with
  | error fault =>
      rw [next] at done
      cases done
  | ok st' =>
      rw [next] at done
      obtain ⟨more, kept, rfl⟩ := exists_of_map_eq_ok done
      exact ⟨st', more, rfl, kept, rfl⟩

theorem eq_nil_of_keep_nil (done : keep number st [] = .ok out) : out = [] := by
  rw [keep] at done
  split at done <;> cases done
  rfl

/-! ## Line feeds -/

theorem blank_suffix (line : List Char) : blank line <:+ line := by
  have taken : line.reverse.takeWhile (fun c => c == '\r' || c == '\n') <+: line.reverse :=
    List.takeWhile_prefix _
  rw [← List.reverse_suffix, List.reverse_reverse] at taken
  exact taken

theorem blank_concat_feed (body : List Char) : blank (body ++ ['\n']) = blank body ++ ['\n'] := by
  simp [blank]

/-- A line feed at the end of a line is left of it. -/
theorem count_blank (feeds : '\n' ∉ line.dropLast) :
    (blank line).count '\n' = line.count '\n' := by
  rcases List.eq_nil_or_concat line with rfl | ⟨body, c, rfl⟩
  · rfl
  · rw [List.concat_eq_append] at *
    rw [List.dropLast_concat] at feeds
    have noFeed : ∀ l : List Char, l.Sublist body → l.count '\n' = 0 := fun l sub =>
      List.count_eq_zero.2 fun among => feeds (sub.subset among)
    by_cases feed : c = '\n'
    · subst feed
      rw [blank_concat_feed, List.count_append, List.count_append,
        noFeed _ (blank_suffix body).sublist, noFeed _ (.refl body)]
    · have feedless : (body ++ [c]).count '\n' = 0 := by
        rw [List.count_append, noFeed _ (.refl body), List.count_singleton,
          if_neg (by simpa using feed)]
      have fewer := (blank_suffix (body ++ [c])).sublist.count_le '\n'
      omega

theorem left_sublist (st : State) (line : List Char) : (st.left line).Sublist line := by
  unfold State.left
  split
  · exact .refl line
  · exact (blank_suffix line).sublist

theorem count_left (st : State) (feeds : '\n' ∉ line.dropLast) :
    (st.left line).count '\n' = line.count '\n' := by
  unfold State.left
  split
  · rfl
  · exact count_blank feeds

/-- Going through lines leaves characters out, but no line feed. -/
theorem keep_thins (feeds : ∀ l ∈ ls, '\n' ∉ l.dropLast) (done : keep number st ls = .ok out) :
    out.Sublist ls.flatten ∧ out.count '\n' = ls.flatten.count '\n' := by
  induction ls generalizing number st out with
  | nil =>
      rw [eq_nil_of_keep_nil done]
      exact ⟨.slnil, rfl⟩
  | cons line ls ih =>
      obtain ⟨next, more, -, kept, rfl⟩ := exists_of_keep_cons done
      obtain ⟨feedsLine, feeds⟩ := List.forall_mem_cons.1 feeds
      obtain ⟨thins, same⟩ := ih feeds kept
      rw [List.flatten_cons, List.count_append, List.count_append, count_left st feedsLine, same]
      exact ⟨(left_sublist st line).append thins, rfl⟩

/-! ## Rows -/

theorem noFeed_of_isPlain (plain : IsPlain row) : '\n' ∉ row := plain.not_mem (by decide)

theorem blank_of_isPlain (plain : IsPlain row) : blank row = [] := by
  have feeds : row.filter (· == '\n') = [] := by
    rw [List.filter_eq_nil_iff]
    intro c among feed
    exact noFeed_of_isPlain plain (beq_iff_eq.1 feed ▸ among)
  rw [blank_eq_filter (plain.not_mem (by decide))
    (fun among => noFeed_of_isPlain plain (List.dropLast_subset _ among)), feeds]

theorem noFeed_leftOfRow (noFeed : '\n' ∉ row) (st : State) : '\n' ∉ st.leftOfRow row := by
  unfold State.leftOfRow
  split
  · exact noFeed
  · exact List.not_mem_nil

theorem left_eq_leftOfRow (plain : IsPlain row) (st : State) : st.left row = st.leftOfRow row := by
  rw [State.left, State.leftOfRow, blank_of_isPlain plain]

theorem left_concat_feed (plain : IsPlain row) (st : State) :
    st.left (row ++ ['\n']) = st.leftOfRow row ++ ['\n'] := by
  have same : st.keeps (row ++ ['\n']) = st.keeps row := by
    rw [State.keeps, read?_append (List.forall_mem_singleton.2 (by decide)), State.keeps]
  rw [State.left, State.leftOfRow, same, blank_concat_feed, blank_of_isPlain plain]
  split <;> rfl

/-- A row in front of a line feed is a line, and a row is left of it. -/
theorem rows_of_keep_row (plain : IsPlain row)
    (done : keep number st (lines (row ++ '\n' :: rest)) = .ok out) :
    ∃ next more, st.next number (row ++ ['\n']) = .ok next ∧
      keep (number + 1) next (lines rest) = .ok more ∧
      rows out = st.leftOfRow row :: rows more := by
  have ending : Ending ['\n'] rest := .single (by decide) nofun
  have cut : lines (row ++ '\n' :: rest) = (row ++ ['\n']) :: lines rest :=
    lines_body plain ending (by simp)
  rw [cut] at done
  obtain ⟨next, more, goes, kept, rfl⟩ := exists_of_keep_cons done
  refine ⟨next, more, goes, kept, ?_⟩
  rw [left_concat_feed plain, List.append_assoc, List.singleton_append,
    rows_append (noFeed_leftOfRow (noFeed_of_isPlain plain) st)]

theorem rows_of_keep_last (plain : IsPlain row) (done : keep number st (lines row) = .ok out) :
    rows out = [st.leftOfRow row] := by
  have left : out = st.leftOfRow row := by
    by_cases empty : row = []
    · subst empty
      rw [eq_nil_of_keep_nil done, State.leftOfRow]
      split <;> rfl
    · have cut : lines row = [row] := by
        have whole := lines_body plain .none (by simpa using empty)
        simpa [lines] using whole
      rw [cut] at done
      obtain ⟨next, more, -, kept, rfl⟩ := exists_of_keep_cons done
      rw [eq_nil_of_keep_nil kept, List.append_nil, left_eq_leftOfRow plain]
  rw [left, rows_of_not_mem (noFeed_leftOfRow (noFeed_of_isPlain plain) st)]

/-- Whether only line feeds end the lines of a text. -/
def EndsInFeeds (s : List Char) : Prop := ∀ c ∈ s, isLineEnd c = true → c = '\n'

instance (s : List Char) : Decidable (EndsInFeeds s) :=
  decidable_of_iff (s.all (fun c => !isLineEnd c || c == '\n') = true) (by
    simp only [EndsInFeeds, List.all_eq_true, Bool.or_eq_true, Bool.not_eq_true', beq_iff_eq,
      ← Bool.not_eq_true, imp_iff_not_or])

theorem EndsInFeeds.isPlain {s l : List Char} (only : EndsInFeeds s) (part : l ⊆ s)
    (noFeed : '\n' ∉ l) : IsPlain l := by
  intro c among
  refine Bool.eq_false_iff.2 fun ends => noFeed ?_
  rwa [← only c (part among) ends]

/-- Where only line feeds end lines, the state behind the rows above a row decides what is left
of it. -/
theorem rows_of_keep {s : List Char} {before after : List (List Char)} (only : EndsInFeeds s)
    (done : keep number st (lines s) = .ok out) (split : rows s = before ++ row :: after) :
    ∃ st', st.behind number (before.map (· ++ ['\n'])) = .ok st' ∧
      (rows out)[before.length]? = some (st'.leftOfRow row) := by
  induction before generalizing s number st out with
  | nil =>
      rcases rows_cases s with ⟨first, rest, rfl, noFeed, cut⟩ | ⟨noFeed, cut⟩
      · have plain := only.isPlain (List.subset_append_left _ _) noFeed
        obtain ⟨next, more, -, -, left⟩ := rows_of_keep_row plain done
        rw [cut] at split
        cases split
        exact ⟨st, rfl, by rw [left]; rfl⟩
      · have left := rows_of_keep_last (only.isPlain (List.Subset.refl s) noFeed) done
        rw [cut] at split
        cases split
        exact ⟨st, rfl, by rw [left]; rfl⟩
  | cons above before ih =>
      rcases rows_cases s with ⟨first, rest, rfl, noFeed, cut⟩ | ⟨-, cut⟩
      · have plain := only.isPlain (List.subset_append_left _ _) noFeed
        obtain ⟨next, more, goes, kept, left⟩ := rows_of_keep_row plain done
        rw [cut] at split
        obtain ⟨rfl, others⟩ := List.cons.inj split
        have below : EndsInFeeds rest := fun c among =>
          only c (List.mem_append_right _ (List.mem_cons_of_mem _ among))
        obtain ⟨st', reached, stands⟩ := ih below kept others
        refine ⟨st', ?_, ?_⟩
        · rw [List.map_cons, State.behind, goes]
          exact reached
        · rw [left]
          exact stands
      · -- a text without line feeds has but one row
        rw [cut] at split
        have short := congrArg List.length split
        simp at short

/-! ## Whole texts -/

/-- A row of what is left that is not empty is the row that the text has there. -/
theorem row_of_keep {s : List Char} (only : EndsInFeeds s)
    (done : keep number st (lines s) = .ok out) (same : (rows out).length = (rows s).length)
    {i : Nat} (stands : (rows out)[i]? = some row) (nonempty : row ≠ []) :
    (rows s)[i]? = some row := by
  obtain ⟨inside, -⟩ := List.getElem?_eq_some_iff.1 stands
  rw [same] at inside
  have split := (List.take_append_drop i (rows s)).symm
  rw [List.drop_eq_getElem_cons inside] at split
  obtain ⟨st', -, left⟩ := rows_of_keep only done split
  rw [List.length_take_of_le (Nat.le_of_lt inside), stands, Option.some_inj] at left
  unfold State.leftOfRow at left
  split at left
  · rw [left]
    exact List.getElem?_eq_getElem inside
  · exact absurd left nonempty

/-- Preprocessing keeps the line feeds of a text, and what it leaves of a row stands in the same
row.  Where only line feeds end lines, a row is left as it is if it is no directive and the
branch around it is taken, and otherwise emptied; so what is left of a text has the numbers
that it had. -/
theorem preprocess_rows {text out : String} {defined : SymbolSet}
    (done : preprocess text defined = .ok out) :
    out.toList.count '\n' = text.toList.count '\n' ∧
      List.Forall₂ List.Sublist (rows out.toList) (rows text.toList) ∧
      (EndsInFeeds text.toList →
        EndsInFeeds out.toList ∧
        (∀ before row after, rows text.toList = before ++ row :: after →
          ∃ st, (State.start defined).behind 1 (before.map (· ++ ['\n'])) = .ok st ∧
            (rows out.toList)[before.length]? = some (if st.keeps row then row else [])) ∧
        ∀ (i : Nat) (row : List Char), (rows out.toList)[i]? = some row → row ≠ [] →
          (rows text.toList)[i]? = some row) := by
  obtain ⟨left, kept, rfl⟩ := exists_of_map_eq_ok done
  obtain ⟨thins, feeds⟩ := keep_thins (fun l among => not_mem_dropLast_lines among) kept
  rw [flatten_lines] at thins feeds
  have inRows := sublist_rows thins feeds
  rw [String.toList_ofList]
  refine ⟨feeds, inRows, ?_⟩
  intro only
  refine ⟨fun c among => only c (thins.subset among), ?_, ?_⟩
  · intro before row after split
    exact rows_of_keep only kept split
  · intro i row stands nonempty
    exact row_of_keep only kept inRows.length_eq stands nonempty

/-- The branch that is taken keeps its number, also behind one that is not. -/
theorem preprocess_rows_undecided :
    preprocess "#if A\n#define B\n#else\nx\n#endif\n" ∅ = .ok "\n\n\nx\n\n" ∧
      List.Forall₂ List.Sublist (rows "\n\n\nx\n\n".toList)
        (rows "#if A\n#define B\n#else\nx\n#endif\n".toList) ∧
      (rows "#if A\n#define B\n#else\nx\n#endif\n".toList)[3]? = some ['x'] := by
  have passes := Block.undecided.passes Block.wellFormed_undecided ∅ [] 1 []
  have cut : Block.undecided.lines = lines "#if A\n#define B\n#else\nx\n#endif\n".toList := by
    decide +kernel
  have done : preprocess "#if A\n#define B\n#else\nx\n#endif\n" ∅ = .ok "\n\n\nx\n\n" := by
    rw [List.append_nil, cut] at passes
    rw [preprocess, State.start, passes]
    rfl
  have only : EndsInFeeds "#if A\n#define B\n#else\nx\n#endif\n".toList := by decide
  obtain ⟨-, inRows, same⟩ := preprocess_rows done
  exact ⟨done, inRows, (same only).2.2 3 ['x'] (by decide) (by decide)⟩

end PluginBuild.Directive
