/-
# Proofs.Text.Line -- the lines of a file and the lines of a text

The lines of a file end at line feeds only (`physicalLines`).  A text without carriage returns
has these lines too, cut further where another character ends a line (`lines_eq_flatMap`).  A
line of a file that something follows ends in its only line feed (`isEnded_of_physicalLines`),
so line feeds count the lines of a file in front of it, and line ends of all kinds those of the
text (`length_eq_count`, `length_lines_eq_countP`).

The first line of a text ends in one of three ways (`Ending`), which say what can follow it, so a
text is gone through line by line (`exists_ending`, `lines_body`).  Its rows are what stands
between its line feeds; they survive if characters are left out, but no line feed
(`sublist_rows`).  Joining its lines leaves no line end (`isPlain_joinLines`), and a text that ends
in none is a single line exactly if it has none (`length_lines_eq_one_iff`).
-/
import PluginBuild.Proofs.Text.Split
import PluginBuild.Text.Line
import Mathlib.Data.List.Basic
import Mathlib.Data.List.TakeWhile

namespace PluginBuild.Text

set_option autoImplicit false

/-- The lines of a file, each with the line feed that ends it. -/
def physicalLines : List Char → List (List Char)
  | [] => []
  | c :: rest =>
    if c = '\n' then [c] :: physicalLines rest else consToFirst c (physicalLines rest)

variable {s l m body ending rest : List Char} {c : Char} {pieces : List (List Char)}

/-! ## Pieces -/

theorem mem_consToFirst (h : l ∈ consToFirst c pieces) :
    l = [c] ∨ (∃ p ∈ pieces, l = c :: p) ∨ l ∈ pieces := by
  cases pieces with
  | nil => exact .inl (List.mem_singleton.1 h)
  | cons p pieces =>
      rcases List.mem_cons.1 h with rfl | among
      · exact .inr (.inl ⟨p, List.mem_cons_self, rfl⟩)
      · exact .inr (.inr (List.mem_cons_of_mem _ among))

theorem consToFirst_append (nonempty : pieces ≠ []) (more : List (List Char)) :
    consToFirst c (pieces ++ more) = consToFirst c pieces ++ more := by
  cases pieces with
  | nil => exact absurd rfl nonempty
  | cons p pieces => rfl

theorem length_consToFirst (nonempty : pieces ≠ []) :
    (consToFirst c pieces).length = pieces.length := by
  cases pieces with
  | nil => exact absurd rfl nonempty
  | cons p pieces => rfl

/-! ## Cutting -/

theorem flatten_physicalLines (s : List Char) : (physicalLines s).flatten = s := by
  fun_induction physicalLines s with
  | case1 => rfl
  | case2 rest ih => rw [List.flatten_cons, ih, List.singleton_append]
  | case3 c rest _ ih => rw [flatten_consToFirst, ih]

theorem not_mem_of_mem_physicalLines (absent : c ∉ s) (h : l ∈ physicalLines s) : c ∉ l := by
  intro among
  refine absent ?_
  rw [← flatten_physicalLines s]
  exact List.mem_flatten_of_mem h among

theorem ne_nil_of_mem_physicalLines (h : l ∈ physicalLines s) : l ≠ [] := by
  fun_induction physicalLines s with
  | case1 => cases h
  | case2 rest ih =>
      rcases List.mem_cons.1 h with rfl | among
      · exact List.cons_ne_nil _ _
      · exact ih among
  | case3 c rest _ ih =>
      rcases mem_consToFirst h with rfl | ⟨p, -, rfl⟩ | among
      · exact List.cons_ne_nil _ _
      · exact List.cons_ne_nil _ _
      · exact ih among

theorem lines_cons (noReturn : c ≠ '\r') (rest : List Char) :
    lines (c :: rest) = if isLineEnd c then [c] :: lines rest else consToFirst c (lines rest) :=
  lines.eq_3 c rest fun _ isReturn _ => noReturn isReturn

theorem lines_ne_nil (nonempty : s ≠ []) : lines s ≠ [] := by
  intro nothing
  refine nonempty ?_
  rw [← flatten_lines s, nothing]
  rfl

/-- Other line ends cut the lines of a file further. -/
theorem lines_eq_flatMap (noReturn : '\r' ∉ s) : lines s = (physicalLines s).flatMap lines := by
  induction s with
  | nil => rfl
  | cons c rest ih =>
      rw [List.mem_cons, not_or] at noReturn
      have notReturn : c ≠ '\r' := Ne.symm noReturn.1
      rw [lines_cons notReturn, ih noReturn.2, physicalLines]
      by_cases feed : c = '\n'
      · subst feed
        rfl
      · rw [if_neg feed]
        cases pieces : physicalLines rest with
        | nil =>
            rw [consToFirst, List.flatMap_singleton, lines_cons notReturn]
            rfl
        | cons p more =>
            have visible : lines p ≠ [] :=
              lines_ne_nil (ne_nil_of_mem_physicalLines (pieces ▸ List.mem_cons_self))
            rw [consToFirst, List.flatMap_cons, List.flatMap_cons, lines_cons notReturn]
            split
            · rfl
            · exact consToFirst_append visible _

/-! ## Line feeds -/

theorem not_mem_dropLast_cons (other : c ≠ '\n') (h : '\n' ∉ l.dropLast) :
    '\n' ∉ (c :: l).dropLast := by
  cases l with
  | nil => exact List.not_mem_nil
  | cons d l =>
      rw [List.dropLast_cons_cons, List.mem_cons, not_or]
      exact ⟨Ne.symm other, h⟩

/-- A line feed stands only at the end of a line. -/
theorem not_mem_dropLast_lines (h : l ∈ lines s) : '\n' ∉ l.dropLast := by
  fun_induction lines s generalizing l with
  | case1 => cases h
  | case2 rest ih =>
      rcases List.mem_cons.1 h with rfl | among
      · decide
      · exact ih among
  | case3 c rest _ _ ih =>
      rcases List.mem_cons.1 h with rfl | among
      · exact List.not_mem_nil
      · exact ih among
  | case4 c rest _ noEnd ih =>
      have other : c ≠ '\n' := by
        rintro rfl
        exact noEnd (by decide)
      rcases mem_consToFirst h with rfl | ⟨p, among, rfl⟩ | among
      · exact List.not_mem_nil
      · exact not_mem_dropLast_cons other (ih among)
      · exact ih among

theorem not_mem_dropLast_physicalLines (h : l ∈ physicalLines s) : '\n' ∉ l.dropLast := by
  fun_induction physicalLines s generalizing l with
  | case1 => cases h
  | case2 rest ih =>
      rcases List.mem_cons.1 h with rfl | among
      · exact List.not_mem_nil
      · exact ih among
  | case3 c rest other ih =>
      rcases mem_consToFirst h with rfl | ⟨p, among, rfl⟩ | among
      · exact List.not_mem_nil
      · exact not_mem_dropLast_cons other (ih among)
      · exact ih among

/-- Whether a line ends in its only line feed. -/
def IsEnded (l : List Char) : Prop := ∃ body, l = body ++ ['\n'] ∧ '\n' ∉ body

theorem IsEnded.cons (h : IsEnded l) (other : c ≠ '\n') : IsEnded (c :: l) := by
  obtain ⟨body, rfl, noFeed⟩ := h
  exact ⟨c :: body, rfl, by rw [List.mem_cons, not_or]; exact ⟨Ne.symm other, noFeed⟩⟩

theorem IsEnded.count (h : IsEnded l) : l.count '\n' = 1 := by
  obtain ⟨body, rfl, noFeed⟩ := h
  rw [List.count_append, List.count_eq_zero.2 noFeed]
  rfl

/-- Only the last line of a file may lack its line feed. -/
theorem isEnded_of_mem_dropLast (h : l ∈ (physicalLines s).dropLast) : IsEnded l := by
  fun_induction physicalLines s generalizing l with
  | case1 => cases h
  | case2 rest ih =>
      cases more : physicalLines rest with
      | nil =>
          rw [more] at h
          cases h
      | cons p more' =>
          rw [more, List.dropLast_cons_cons] at h
          rcases List.mem_cons.1 h with rfl | among
          · exact ⟨[], rfl, List.not_mem_nil⟩
          · exact ih (more ▸ among)
  | case3 c rest other ih =>
      cases more : physicalLines rest with
      | nil =>
          rw [more] at h
          cases h
      | cons p more' =>
          rw [more] at h ih
          cases more' with
          | nil => cases h
          | cons q more' =>
              rcases List.mem_cons.1 h with rfl | among
              · exact (ih List.mem_cons_self).cons other
              · exact ih (List.mem_cons_of_mem _ among)

theorem isEnded_of_physicalLines {before after : List (List Char)}
    (split : physicalLines s = before ++ l :: after) : ∀ p ∈ before, IsEnded p := by
  intro p among
  refine isEnded_of_mem_dropLast (s := s) ?_
  rw [split, List.dropLast_append_cons]
  exact List.mem_append_left _ among

/-- There are as many lines as line feeds. -/
theorem length_eq_count (ended : ∀ p ∈ pieces, IsEnded p) :
    pieces.length = pieces.flatten.count '\n' := by
  induction pieces with
  | nil => rfl
  | cons p pieces ih =>
      rw [List.flatten_cons, List.count_append, (ended p List.mem_cons_self).count,
        ← ih fun q among => ended q (List.mem_cons_of_mem _ among), List.length_cons, Nat.add_comm]

theorem length_lines (noReturn : '\r' ∉ s) :
    (lines (s ++ ['\n'])).length = (s ++ ['\n']).countP isLineEnd := by
  induction s with
  | nil => rfl
  | cons c s ih =>
      rw [List.mem_cons, not_or] at noReturn
      have rest := ih noReturn.2
      rw [List.cons_append, lines_cons (Ne.symm noReturn.1), List.countP_cons]
      split
      · rw [List.length_cons, rest]
      · rw [length_consToFirst (lines_ne_nil (List.append_ne_nil_of_right_ne_nil _
          (List.cons_ne_nil _ _))), rest, Nat.add_zero]

/-- Cut at every line end, lines give as many lines as there are line ends. -/
theorem length_lines_eq_countP (ended : ∀ p ∈ pieces, IsEnded p)
    (noReturn : ∀ p ∈ pieces, '\r' ∉ p) :
    (pieces.flatMap lines).length = pieces.flatten.countP isLineEnd := by
  induction pieces with
  | nil => rfl
  | cons p pieces ih =>
      have others := ih (fun q among => ended q (List.mem_cons_of_mem _ among))
        fun q among => noReturn q (List.mem_cons_of_mem _ among)
      obtain ⟨body, rfl, -⟩ := ended p List.mem_cons_self
      have noReturn' : '\r' ∉ body := fun isReturn =>
        noReturn _ List.mem_cons_self (List.mem_append_left _ isReturn)
      rw [List.flatMap_cons, List.length_append, length_lines noReturn', others, List.flatten_cons]
      exact List.countP_append.symm

/-! ## The first line -/

/-- The characters that end a line, one by one. -/
def lineEndChars : List Char :=
  ['\n', '\x0b', '\x0c', '\r', '\x1c', '\x1d', '\x1e', '\u0085', '\u2028', '\u2029']

theorem isLineEnd_iff : isLineEnd c = true ↔ c ∈ lineEndChars := by
  constructor
  · intro ends
    obtain ⟨r, among, low, high⟩ := (CharClass.contains_iff lineEnds c).1 ends
    have known : c = Char.ofNat c.toNat := (Char.ofNat_toNat c).symm
    simp only [lineEnds, List.mem_cons, List.not_mem_nil, or_false] at among
    have code : c.toNat ∈ [0xA, 0xB, 0xC, 0xD, 0x1C, 0x1D, 0x1E, 0x85, 0x2028, 0x2029] := by
      rcases among with rfl | rfl | rfl | rfl <;> simp at low high ⊢ <;> omega
    rw [known]
    generalize c.toNat = n at code
    revert n
    decide
  · intro among
    have all : lineEndChars.all isLineEnd = true := by decide
    exact List.all_eq_true.1 all c among

/-- Whether no character of a text ends a line. -/
def IsPlain (l : List Char) : Prop := ∀ c ∈ l, isLineEnd c = false

instance (l : List Char) : Decidable (IsPlain l) :=
  List.decidableBAll (fun c => isLineEnd c = false) l

theorem isPlain_nil : IsPlain [] := fun _ among => absurd among List.not_mem_nil

theorem IsPlain.not_mem (plain : IsPlain l) (ends : isLineEnd c = true) : c ∉ l := by
  intro among
  rw [plain c among] at ends
  cases ends

/-- How the first line of a text ends in front of the rest: at the end of the text, with the pair
of a carriage return and a line feed, or with one character that is no such pair. -/
inductive Ending : List Char → List Char → Prop
  | none : Ending [] []
  | pair (rest : List Char) : Ending ['\r', '\n'] rest
  | single {c : Char} {rest : List Char} (ends : isLineEnd c = true)
      (noPair : c = '\r' → rest.head? ≠ some '\n') : Ending [c] rest

theorem Ending.ends (h : Ending ending rest) : ∀ c ∈ ending, isLineEnd c = true := by
  cases h with
  | none => exact fun c among => absurd among List.not_mem_nil
  | pair => exact List.all_eq_true.1 (by decide)
  | single ends => exact List.forall_mem_singleton.2 ends

theorem lines_ending (h : Ending ending rest) (nonempty : ending ≠ []) :
    lines (ending ++ rest) = ending :: lines rest := by
  cases h with
  | none => exact absurd rfl nonempty
  | pair => rfl
  | @single c _ ends noPair =>
      have single : lines (c :: rest) =
          if isLineEnd c then [c] :: lines rest else consToFirst c (lines rest) := by
        refine lines.eq_3 c rest fun rest' isReturn pair => noPair isReturn ?_
        rw [pair]
        rfl
      rw [List.singleton_append, single, if_pos ends]

/-- The first line of a text goes as far as its first line end. -/
theorem lines_body (plain : IsPlain body) (h : Ending ending rest)
    (nonempty : body ++ ending ≠ []) :
    lines (body ++ (ending ++ rest)) = (body ++ ending) :: lines rest := by
  induction body with
  | nil => exact lines_ending h nonempty
  | cons c body ih =>
      obtain ⟨noEnd, plain⟩ := List.forall_mem_cons.1 plain
      have notReturn : c ≠ '\r' := by
        rintro rfl
        revert noEnd
        decide
      rw [List.cons_append, lines_cons notReturn, noEnd, if_neg Bool.false_ne_true]
      by_cases more : body ++ ending = []
      · obtain ⟨rfl, rfl⟩ := List.append_eq_nil_iff.1 more
        cases h
        rfl
      · rw [ih plain more]
        rfl

/-- Every text that is not empty has a first line. -/
theorem exists_ending (nonempty : s ≠ []) : ∃ body ending rest, s = body ++ (ending ++ rest) ∧
    IsPlain body ∧ Ending ending rest ∧ body ++ ending ≠ [] := by
  have plain : IsPlain (s.takeWhile (!isLineEnd ·)) := by
    intro c among
    simpa using List.mem_takeWhile_imp among
  have split := List.takeWhile_append_dropWhile (p := (!isLineEnd ·)) (l := s)
  cases behind : s.dropWhile (!isLineEnd ·) with
  | nil =>
      rw [behind, List.append_nil] at split
      rw [split] at plain
      exact ⟨s, [], [], (List.append_nil s).symm, plain, .none, by rwa [List.append_nil]⟩
  | cons c rest =>
      rw [behind] at split
      have ends : isLineEnd c = true := by
        have first := List.head_dropWhile_not (!isLineEnd ·) (l := s)
        simp only [behind] at first
        simpa using first
      by_cases pair : c = '\r' ∧ rest.head? = some '\n'
      · obtain ⟨rfl, follows⟩ := pair
        obtain ⟨more, rfl⟩ := List.head?_eq_some_iff.1 follows
        exact ⟨_, ['\r', '\n'], more, split.symm, plain, .pair more, by simp⟩
      · have noPair : c = '\r' → rest.head? ≠ some '\n' := fun isReturn follows =>
          pair ⟨isReturn, follows⟩
        exact ⟨_, [c], rest, split.symm, plain, .single ends noPair, by simp⟩

/-! ## Single lines -/

theorem isPlain_append : IsPlain (l ++ m) ↔ IsPlain l ∧ IsPlain m := List.forall_mem_append

/-- Every line of a text is plain up to what ends it. -/
theorem exists_of_mem_lines {s l : List Char} (h : l ∈ lines s) :
    ∃ body ending rest, l = body ++ ending ∧ IsPlain body ∧ Ending ending rest := by
  by_cases empty : s = []
  · subst empty
    exact absurd h List.not_mem_nil
  · obtain ⟨body, ending, rest, rfl, plain, ends, nonempty⟩ := exists_ending empty
    rw [lines_body plain ends nonempty] at h
    rcases List.mem_cons.1 h with rfl | among
    · exact ⟨body, ending, rest, rfl, plain, ends⟩
    · have shorter : rest.length < (body ++ (ending ++ rest)).length := by
        have := List.length_pos_iff.2 nonempty
        simp only [List.length_append] at this ⊢
        omega
      exact exists_of_mem_lines among
termination_by s.length

theorem isPlain_withoutEnd (h : l ∈ lines s) : IsPlain (withoutEnd l) := by
  obtain ⟨body, ending, rest, rfl, plain, ends⟩ := exists_of_mem_lines h
  have gone : ∀ c ∈ ending.reverse, isLineEnd c = true := fun c among =>
    ends.ends c (List.mem_reverse.1 among)
  intro c among
  rw [withoutEnd, List.reverse_append, List.dropWhile_append_of_pos gone, List.mem_reverse] at among
  exact plain c (List.mem_reverse.1 ((List.dropWhile_sublist _).subset among))

/-- A text whose lines are joined is a single line. -/
theorem isPlain_joinLines (text : String) : IsPlain (joinLines text).toList := by
  intro c among
  rw [← Bool.not_eq_true]
  intro ends
  have other : c ∉ " ".toList := by
    intro space
    obtain rfl := List.mem_singleton.1 space
    revert ends
    decide
  rw [joinLines, String.toList_intercalate, mem_intercalate other] at among
  obtain ⟨part, hpart, hc⟩ := among
  obtain ⟨shown, hshown, rfl⟩ := List.mem_map.1 hpart
  obtain ⟨line, hline, rfl⟩ := List.mem_map.1 hshown
  rw [String.toList_ofList] at hc
  rw [isPlain_withoutEnd hline c hc] at ends
  cases ends

/-- A plain text is one line. -/
theorem lines_of_isPlain (plain : IsPlain l) (nonempty : l ≠ []) : lines l = [l] := by
  have whole := lines_body plain .none (by rwa [List.append_nil])
  rwa [List.append_nil, List.append_nil] at whole

/-- A text that goes on in a plain text behind it is one line exactly if it is plain. -/
theorem length_lines_eq_one_iff (plain : IsPlain m) (nonempty : m ≠ []) :
    (lines (l ++ m)).length = 1 ↔ IsPlain l := by
  have visible : l ++ m ≠ [] := List.append_ne_nil_of_right_ne_nil _ nonempty
  constructor
  · intro single
    obtain ⟨body, ending, rest, split, plain', ends, some'⟩ := exists_ending visible
    rw [split, lines_body plain' ends some', List.length_cons, Nat.add_eq_right,
      List.length_eq_zero_iff] at single
    have last : rest = [] := Classical.byContradiction fun more => lines_ne_nil more single
    subst last
    rw [List.append_nil] at split
    by_cases ended : ending = []
    · subst ended
      rw [List.append_nil] at split
      exact (isPlain_append.1 (split ▸ plain')).1
    · have same : m.getLast nonempty = ending.getLast ended := by
        rw [← List.getLast_append_of_ne_nil visible nonempty]
        simp only [split, List.getLast_append_of_ne_nil _ ended]
      have closes := ends.ends _ (List.getLast_mem ended)
      rw [← same, plain _ (List.getLast_mem nonempty)] at closes
      cases closes
  · intro plain'
    rw [lines_of_isPlain (isPlain_append.2 ⟨plain', plain⟩) visible]
    rfl

/-! ## Rows -/

/-- The rows of a text: its pieces between line feeds. -/
def rows (s : List Char) : List (List Char) := cut (· == '\n') s

theorem rows_cons (other : c ≠ '\n') (rest : List Char) :
    rows (c :: rest) = consToFirst c (rows rest) := by
  rw [rows, cut, if_neg (by simpa using other), rows]

theorem rows_append (noFeed : '\n' ∉ l) (rest : List Char) :
    rows (l ++ '\n' :: rest) = l :: rows rest := by
  induction l with
  | nil => rfl
  | cons c l ih =>
      rw [List.mem_cons, not_or] at noFeed
      rw [List.cons_append, rows_cons (Ne.symm noFeed.1), ih noFeed.2]
      rfl

theorem rows_of_not_mem (noFeed : '\n' ∉ l) : rows l = [l] := by
  induction l with
  | nil => rfl
  | cons c l ih =>
      rw [List.mem_cons, not_or] at noFeed
      rw [rows_cons (Ne.symm noFeed.1), ih noFeed.2]
      rfl

/-- The first row of a text is what stands in front of its first line feed. -/
theorem rows_cases (s : List Char) :
    (∃ row rest, s = row ++ '\n' :: rest ∧ '\n' ∉ row ∧ rows s = row :: rows rest) ∨
      '\n' ∉ s ∧ rows s = [s] := by
  by_cases feeds : '\n' ∈ s
  · obtain ⟨row, rest, rfl, noFeed⟩ := List.eq_append_cons_of_mem feeds
    exact .inl ⟨row, rest, rfl, noFeed, rows_append noFeed rest⟩
  · exact .inr ⟨feeds, rows_of_not_mem feeds⟩

theorem rows_ne_nil (s : List Char) : rows s ≠ [] := by
  rcases rows_cases s with ⟨row, rest, -, -, divided⟩ | ⟨-, divided⟩
  · rw [divided]
    exact List.cons_ne_nil _ _
  · rw [divided]
    exact List.cons_ne_nil _ _

theorem sublist_consToFirst {thinned : List (List Char)} (nonempty : pieces ≠ [])
    (h : List.Forall₂ List.Sublist thinned pieces) (c : Char) :
    List.Forall₂ List.Sublist thinned (consToFirst c pieces) ∧
      List.Forall₂ List.Sublist (consToFirst c thinned) (consToFirst c pieces) := by
  cases h with
  | nil => exact absurd rfl nonempty
  | cons first others => exact ⟨.cons (first.cons c) others, .cons (first.cons_cons c) others⟩

/-- Where characters are left out of a text, but no line feed, they are left out of its rows. -/
theorem sublist_rows (thins : l.Sublist m) (feeds : l.count '\n' = m.count '\n') :
    List.Forall₂ List.Sublist (rows l) (rows m) := by
  induction thins with
  | slnil => exact .cons .slnil .nil
  | @cons l m c thins ih =>
      have fewer := thins.count_le '\n'
      have other : c ≠ '\n' := by
        rintro rfl
        rw [List.count_cons_self] at feeds
        omega
      rw [List.count_cons_of_ne other] at feeds
      rw [rows_cons other]
      exact (sublist_consToFirst (rows_ne_nil m) (ih feeds) c).1
  | @cons_cons l m c thins ih =>
      by_cases feed : c = '\n'
      · subst feed
        rw [List.count_cons_self, List.count_cons_self, Nat.add_right_cancel_iff] at feeds
        exact .cons .slnil (ih feeds)
      · rw [List.count_cons_of_ne feed, List.count_cons_of_ne feed] at feeds
        rw [rows_cons feed, rows_cons feed]
        exact (sublist_consToFirst (rows_ne_nil m) (ih feeds) c).2

/-! ## Carriage returns -/

theorem not_mem_normalizeNewlines (s : List Char) : '\r' ∉ normalizeNewlines s := by
  fun_induction normalizeNewlines s with
  | case1 => exact List.not_mem_nil
  | case2 rest ih =>
      rw [List.mem_cons, not_or]
      exact ⟨by decide, ih⟩
  | case3 c rest _ ih =>
      rw [List.mem_cons, not_or]
      refine ⟨?_, ih⟩
      split
      · decide
      · next other => exact Ne.symm other

end PluginBuild.Text
