/-
# Proofs.Text.Split -- the characters of pieces

Cutting a text drops its separators and nothing else (`flatten_cut`), and putting pieces together
adds nothing but separators (`mem_intercalate`).  Pieces without separators that are put together
with one are cut apart again (`cut_intercalate`).
-/
import PluginBuild.Text.Split

namespace PluginBuild.Text

set_option autoImplicit false

theorem flatten_cut (sep : Char → Bool) (s : List Char) :
    (cut sep s).flatten = s.filter fun c => !sep c := by
  induction s with
  | nil => rfl
  | cons c s ih =>
      by_cases hc : sep c = true
      · rw [cut, if_pos hc, List.flatten_cons, List.nil_append, ih]
        simp [hc]
      · rw [cut, if_neg hc, flatten_consToFirst, ih]
        simp [hc]

/-- Up to its first separator a text is one piece. -/
theorem cut_append {sep : Char → Bool} {c : Char} (separates : sep c = true) {piece : List Char}
    (whole : ∀ d ∈ piece, sep d = false) (rest : List Char) :
    cut sep (piece ++ c :: rest) = piece :: cut sep rest := by
  induction piece with
  | nil => rw [List.nil_append, cut, if_pos separates]
  | cons d piece ih =>
      obtain ⟨first, others⟩ := List.forall_mem_cons.1 whole
      rw [List.cons_append, cut, first, if_neg Bool.false_ne_true, ih others]
      rfl

theorem cut_of_whole {sep : Char → Bool} {piece : List Char}
    (whole : ∀ d ∈ piece, sep d = false) : cut sep piece = [piece] := by
  induction piece with
  | nil => rfl
  | cons d piece ih =>
      obtain ⟨first, others⟩ := List.forall_mem_cons.1 whole
      rw [cut, first, if_neg Bool.false_ne_true, ih others]
      rfl

theorem cut_intercalate {sep : Char → Bool} {c : Char} (separates : sep c = true)
    {pieces : List (List Char)} (nonempty : pieces ≠ [])
    (whole : ∀ piece ∈ pieces, ∀ d ∈ piece, sep d = false) :
    cut sep ([c].intercalate pieces) = pieces := by
  induction pieces with
  | nil => exact absurd rfl nonempty
  | cons piece pieces ih =>
      obtain ⟨first, others⟩ := List.forall_mem_cons.1 whole
      cases pieces with
      | nil =>
          rw [List.intercalate_singleton]
          exact cut_of_whole first
      | cons next pieces =>
          rw [List.intercalate_cons_cons, List.append_assoc, List.singleton_append,
            cut_append separates first, ih (List.cons_ne_nil _ _) others]

/-- A text put together with separators has the characters of its parts and of the
separator. -/
theorem mem_intercalate {c : Char} {sep : List Char} (other : c ∉ sep)
    (parts : List (List Char)) : c ∈ sep.intercalate parts ↔ ∃ part ∈ parts, c ∈ part := by
  induction parts with
  | nil => simp
  | cons part parts ih =>
      cases parts with
      | nil => simp
      | cons next parts =>
          rw [List.intercalate_cons_cons, List.mem_append, List.mem_append, ih]
          simp [other]

/-- What holds of the separator holds of a text exactly if it holds of its parts. -/
theorem forall_mem_intercalate {P : Char → Prop} {sep : List Char} (ofSep : ∀ c ∈ sep, P c)
    (parts : List (List Char)) :
    (∀ c ∈ sep.intercalate parts, P c) ↔ ∀ part ∈ parts, ∀ c ∈ part, P c := by
  constructor
  · intro whole part among c inside
    by_cases separates : c ∈ sep
    · exact ofSep c separates
    · exact whole c ((mem_intercalate separates parts).2 ⟨part, among, inside⟩)
  · intro each c inside
    by_cases separates : c ∈ sep
    · exact ofSep c separates
    · obtain ⟨part, among, inside⟩ := (mem_intercalate separates parts).1 inside
      exact each part among c inside

end PluginBuild.Text
