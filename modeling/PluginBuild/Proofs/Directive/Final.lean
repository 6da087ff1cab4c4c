/-
# Proofs.Directive.Final -- preprocessing what was preprocessed

A text in which no line is a directive is preprocessed to itself (`preprocess_settled`), and what
preprocessing leaves is such a text (`isSettled_of_keep`, by induction on the text behind its
first line).  Leaving lines out can join what stood around them: a carriage return and a line feed
that were apart come to end one line, so the lines of what is left are not those that were kept.
But the line feed was a line of its own, and a line is the directive that it is whatever ends it
(`isSettled_behind`).
-/
import PluginBuild.Proofs.Directive.Numbering

namespace PluginBuild.Directive

set_option autoImplicit false

open PluginBuild.Text

variable {body ending rest more : List Char}

/-- Whether no line of a text is a directive. -/
def IsSettled (s : List Char) : Prop := ∀ l ∈ lines s, Line.read? l = none

theorem isSettled_nil : IsSettled [] := fun _ among => absurd among List.not_mem_nil

/-! ## The first line -/

theorem isSettled_body (plain : IsPlain body) (h : Ending ending rest)
    (reads : Line.read? body = none) (settled : IsSettled rest) :
    IsSettled (body ++ (ending ++ rest)) := by
  by_cases empty : body ++ ending = []
  · obtain ⟨rfl, rfl⟩ := List.append_eq_nil_iff.1 empty
    exact settled
  · intro l among
    rw [lines_body plain h empty, List.mem_cons] at among
    rcases among with rfl | among
    · rw [read?_append h.ends, reads]
    · exact settled l among

/-- What stands behind a line that is no directive may be exchanged, so long as a line at the end
of a text stays there. -/
theorem isSettled_behind (plain : IsPlain body) (h : Ending ending rest)
    (reads : Line.read? body = none) (last : ending = [] → more = []) (settled : IsSettled more) :
    IsSettled (body ++ (ending ++ more)) := by
  cases h with
  | none =>
      rw [last rfl]
      exact isSettled_body plain .none reads isSettled_nil
  | pair => exact isSettled_body plain (.pair more) reads settled
  | @single c _ ends noPair =>
      by_cases pairs : c = '\r' ∧ more.head? = some '\n'
      · obtain ⟨rfl, follows⟩ := pairs
        obtain ⟨behind, rfl⟩ := List.head?_eq_some_iff.1 follows
        -- the line feed was a line of its own, and now ends this one
        have settled' : IsSettled behind := fun l among => settled l (List.mem_cons_of_mem _ among)
        show IsSettled (body ++ (['\r', '\n'] ++ behind))
        exact isSettled_body plain (.pair behind) reads settled'
      · have noPair' : c = '\r' → more.head? ≠ some '\n' := fun isReturn follows =>
          pairs ⟨isReturn, follows⟩
        exact isSettled_body plain (.single ends noPair') reads settled

theorem blank_body (plain : IsPlain body) (h : Ending ending rest) :
    blank (body ++ ending) = [] ∨ blank (body ++ ending) = ending := by
  have noEnds : body.reverse.takeWhile (fun c => c == '\r' || c == '\n') = [] :=
    List.reverse_eq_nil_iff.1 (blank_of_isPlain plain)
  cases h with
  | none =>
      rw [List.append_nil]
      exact .inl (blank_of_isPlain plain)
  | pair => exact .inr (by simp [blank, noEnds])
  | single =>
      rw [blank, List.reverse_append, List.reverse_singleton, List.singleton_append,
        List.takeWhile_cons, noEnds]
      split
      · exact .inr rfl
      · exact .inl rfl

/-- What is left of a line makes no directive, neither itself nor of what follows it. -/
theorem isSettled_left (st : State) (plain : IsPlain body) (h : Ending ending rest)
    (last : ending = [] → more = []) (settled : IsSettled more) :
    IsSettled (st.left (body ++ ending) ++ more) := by
  unfold State.left
  split
  · next keeps =>
    rw [State.keeps, Bool.and_eq_true, Option.isNone_iff_eq_none, read?_append h.ends] at keeps
    rw [List.append_assoc]
    exact isSettled_behind plain h keeps.1 last settled
  · rcases blank_body plain h with dropped | all
    · rw [dropped]
      exact settled
    · rw [all]
      exact isSettled_behind isPlain_nil h rfl last settled

/-! ## Whole texts -/

theorem isSettled_of_keep {s out : List Char} {number : Nat} {st : State}
    (done : keep number st (lines s) = .ok out) : IsSettled out := by
  by_cases empty : s = []
  · subst empty
    rw [eq_nil_of_keep_nil done]
    exact isSettled_nil
  · obtain ⟨body, ending, rest, rfl, plain, h, nonempty⟩ := exists_ending empty
    rw [lines_body plain h nonempty] at done
    obtain ⟨next, more, -, kept, rfl⟩ := exists_of_keep_cons done
    have shorter : rest.length < (body ++ (ending ++ rest)).length := by
      have := List.length_pos_iff.2 nonempty
      simp only [List.length_append] at this ⊢
      omega
    refine isSettled_left st plain h ?_ (isSettled_of_keep kept)
    rintro rfl
    cases h
    exact eq_nil_of_keep_nil kept
termination_by s.length

theorem preprocess_settled {text : String} (settled : IsSettled text.toList)
    (defined : SymbolSet) : preprocess text defined = .ok text := by
  rw [preprocess, keep_plains settled, flatten_lines]
  exact congrArg Except.ok String.ofList_toList

/-- What preprocessing leaves of a text has no directives, and preprocessing leaves it as it is,
whatever symbols are defined then. -/
theorem preprocess_final {text out : String} {defined : SymbolSet}
    (done : preprocess text defined = .ok out) (other : SymbolSet) :
    preprocess out other = .ok out ∧ ∀ l ∈ lines out.toList, Line.read? l = none := by
  obtain ⟨left, kept, rfl⟩ := exists_of_map_eq_ok done
  have settled : IsSettled (String.ofList left).toList := by
    rw [String.toList_ofList]
    exact isSettled_of_keep kept
  exact ⟨preprocess_settled settled other, settled⟩

set_option maxRecDepth 4000 in
/-- A directive that a vertical tab ends vanishes between a carriage return and a line feed. -/
theorem preprocess_final_joins :
    preprocess "a\r#define B\x0b\nb" ∅ = .ok "a\r\nb" ∧
      preprocess "a\r\nb" (SymbolSet.ofList ["a"]) = .ok "a\r\nb" := by
  have done : preprocess "a\r#define B\x0b\nb" ∅ = .ok "a\r\nb" := by rfl
  exact ⟨done, (preprocess_final done _).1⟩

end PluginBuild.Directive
