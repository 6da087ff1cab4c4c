/-
# Text.Split -- cutting a text at separators

`cut` yields the pieces between separators, at least one and possibly empty ones;
no piece holds a separator (`not_sep_of_mem_cut`).
-/
namespace PluginBuild.Text

set_option autoImplicit false

/-- Puts `c` at the front of the first of some pieces. -/
def consToFirst (c : Char) : List (List Char) → List (List Char)
  | [] => [[c]]
  | piece :: more => (c :: piece) :: more

theorem flatten_consToFirst (c : Char) (pieces : List (List Char)) :
    (consToFirst c pieces).flatten = c :: pieces.flatten := by
  cases pieces <;> rfl

/-- The pieces of a text between the characters that `sep` accepts. -/
def cut (sep : Char → Bool) : List Char → List (List Char)
  | [] => [[]]
  | c :: rest => if sep c then [] :: cut sep rest else consToFirst c (cut sep rest)

/-- The pieces of a text between the characters that `sep` accepts. -/
def splitAt (sep : Char → Bool) (s : String) : List String := (cut sep s.toList).map String.ofList

theorem not_sep_of_mem_cut {sep : Char → Bool} {s piece : List Char} (h : piece ∈ cut sep s) :
    ∀ c ∈ piece, sep c = false := by
  induction s generalizing piece with
  | nil => simp_all [cut]
  | cons c rest ih =>
    by_cases hc : sep c = true
    · simp only [cut, hc, if_true, List.mem_cons] at h
      rcases h with rfl | h
      · simp
      · exact ih h
    · simp only [cut, hc] at h
      cases hr : cut sep rest with
      | nil =>
        simp only [hr, consToFirst, Bool.false_eq_true, if_false, List.mem_singleton] at h
        simp_all
      | cons p more =>
        simp only [hr, consToFirst, Bool.false_eq_true, if_false, List.mem_cons] at h
        rcases h with rfl | h
        · intro x hx
          rcases List.mem_cons.1 hx with rfl | hx
          · simpa using hc
          · exact ih (by simp [hr]) x hx
        · exact ih (by simp [hr, h])

end PluginBuild.Text
