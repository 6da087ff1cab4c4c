/-
# Proofs.Host.Release -- the release lines that a version has reached

Versions and release lines are ordered as the lists of their numbers, by the first that differs;
a line that is the beginning of a version comes before it.  So a version reaches a line exactly if
the line is at most its first two numbers (`reaches_iff`).

The lines are listed in ascending order, and a version reaches a line together with all before
it.  Hence what a version has reached is the beginning of what every later one has reached
(`reachedBy_monotone`).
-/
import PluginBuild.Host.Symbols
import PluginBuild.Proofs.Number.Integer
import Mathlib

namespace PluginBuild

set_option autoImplicit false

/-- The numbers of a release line in order. -/
def ReleaseLine.toList (line : ReleaseLine) : List Int := [line.major, line.minor]

namespace Version

variable {v w : Version} {line line' : ReleaseLine}

theorem not_lex_iff_le {l m : List Int} : ¬List.Lex (· < ·) m l ↔ l ≤ m := by
  rw [← not_lt]
  exact Iff.rfl

theorem reaches_eq_true : v.reaches line = true ↔
    line.major < v.major ∨ line.major = v.major ∧ line.minor ≤ v.minor := by
  simp [reaches]

/-- A version reaches the lines that are at most its first two numbers. -/
theorem reaches_iff : v.reaches line = true ↔ line.toList ≤ v.toList.take 2 := by
  rw [reaches_eq_true, ← not_lex_iff_le]
  simp only [toList, ReleaseLine.toList, List.take_succ_cons, List.take_zero,
    List.cons_lex_cons_iff, List.not_lex_nil, and_false, or_false]
  omega

/-- Later versions have reached what earlier ones have. -/
theorem reaches_of_le (earlier : v.toList ≤ w.toList) (reached : v.reaches line = true) :
    w.reaches line = true := by
  rw [reaches_eq_true] at reached ⊢
  rw [← not_lex_iff_le] at earlier
  simp only [toList, List.cons_lex_cons_iff] at earlier
  omega

/-- What comes before a line that is reached is reached. -/
theorem reaches_of_lt (before : line.toList < line'.toList) (reached : v.reaches line' = true) :
    v.reaches line = true := by
  rw [reaches_iff] at reached ⊢
  exact before.le.trans reached

end Version

namespace Host

/-! ## The symbols of lines -/

theorem underscore_not_mem_toString (n : Int) : '_' ∉ (toString n).toList := by
  intro among
  rcases Number.Integer.mem_toString among with ⟨sign, -⟩ | digit
  · cases sign
  · cases digit

/-- Different lines have different symbols. -/
theorem lineSymbol_injective : Function.Injective lineSymbol := by
  rintro ⟨major, minor⟩ ⟨major', minor'⟩ same
  have same := congrArg String.toList same
  -- the ending goes first: it has an underscore of its own
  simp only [lineSymbol, String.toList_append, List.append_cancel_right_eq] at same
  simp only [List.append_assoc, List.append_cancel_left_eq, show "_".toList = ['_'] from rfl,
    List.singleton_append] at same
  obtain ⟨ofMajor, -, ofMinor⟩ := (List.append_cons_inj_of_notMem
    (underscore_not_mem_toString major') (underscore_not_mem_toString minor')).1 same.symm
  rw [String.toList_inj, Int.toString_eq_repr, Int.toString_eq_repr, Int.repr_inj] at ofMajor
  rw [String.toList_inj, Int.toString_eq_repr, Int.toString_eq_repr, Int.repr_inj] at ofMinor
  rw [ofMajor, ofMinor]

/-! ## The lines in order -/

/-- The lines are listed in ascending order. -/
theorem ascending_releaseLines :
    releaseLines.Pairwise fun a b => a.toList < b.toList := by
  decide

/-- Where what comes before a member is picked with it, more of a list is picked by going on. -/
theorem filter_isPrefix {α : Type} {p q : α → Bool} {l : List α}
    (closed : l.Pairwise fun a b => p b = true → p a = true)
    (implies : ∀ a, p a = true → q a = true) : l.filter p <+: l.filter q := by
  induction l with
  | nil => exact List.prefix_rfl
  | cons a l ih =>
      obtain ⟨before, closed⟩ := List.pairwise_cons.1 closed
      by_cases picked : p a = true
      · rw [List.filter_cons_of_pos picked, List.filter_cons_of_pos (implies a picked),
          List.prefix_cons_inj]
        exact ih closed
      · have nothing : (a :: l).filter p = [] := by
          rw [List.filter_eq_nil_iff, List.forall_mem_cons]
          exact ⟨picked, fun b among picks => picked (before b among picks)⟩
        rw [nothing]
        exact List.nil_prefix

/-! ## What is reached -/

variable {v w : Version}

theorem isPrefix_reachedSymbols (earlier : v.toList ≤ w.toList) :
    reachedSymbols v <+: reachedSymbols w := by
  have closed : releaseLines.Pairwise fun a b => v.reaches b = true → v.reaches a = true :=
    ascending_releaseLines.imp Version.reaches_of_lt
  exact (filter_isPrefix closed fun _ => Version.reaches_of_le earlier).map lineSymbol

theorem lineSymbol_mem_reachedSymbols {line : ReleaseLine} :
    lineSymbol line ∈ reachedSymbols v ↔ line ∈ releaseLines ∧ line.toList ≤ v.toList.take 2 := by
  rw [reachedSymbols, List.mem_map_of_injective lineSymbol_injective, List.mem_filter,
    Version.reaches_iff]

theorem nodup_reachedSymbols (v : Version) : (reachedSymbols v).Nodup := by
  have distinct : releaseLines.Nodup :=
    ascending_releaseLines.imp fun before same => (same ▸ before).ne rfl
  exact (distinct.filter _).map lineSymbol_injective

/-- The symbols of the release lines that a written version has reached. -/
def reachedBy (s : String) : Except Version.Unrecognised (List String) :=
  (Version.parse s).map reachedSymbols

theorem reachedBy_of_parse {s : String} (accepted : Version.parse s = .ok v) :
    reachedBy s = .ok (reachedSymbols v) := by
  rw [reachedBy, accepted]
  rfl

/-- What an earlier version has reached is the beginning of what a later one has.  Each version has
reached the listed lines that are at most its first two numbers, and their symbols stand once and
in the order of the lines. -/
theorem reachedBy_monotone {s t : String} (accepted : Version.parse s = .ok v)
    (accepted' : Version.parse t = .ok w) :
    ∃ names names', reachedBy s = .ok names ∧ reachedBy t = .ok names' ∧
      (v.toList ≤ w.toList → names <+: names') ∧
      (∀ major minor, lineSymbol ⟨major, minor⟩ ∈ names ↔
        ⟨major, minor⟩ ∈ releaseLines ∧ [major, minor] ≤ v.toList.take 2) ∧
      names.Nodup ∧
      ∃ reached : List ReleaseLine, names = reached.map lineSymbol ∧
        reached.Pairwise fun a b => a.toList < b.toList :=
  ⟨reachedSymbols v, reachedSymbols w, reachedBy_of_parse accepted, reachedBy_of_parse accepted',
    isPrefix_reachedSymbols, fun _ _ => lineSymbol_mem_reachedSymbols, nodup_reachedSymbols v,
    releaseLines.filter v.reaches, rfl, ascending_releaseLines.filter _⟩

theorem reachedBy_monotone_padded :
    Version.parse "2017.2" = .ok ⟨2017, 2, 0, 0⟩ ∧
      Version.parse "2019.4.1f1" = .ok ⟨2019, 4, 1, 1⟩ ∧
      ∃ names names', reachedBy "2017.2" = .ok names ∧ reachedBy "2019.4.1f1" = .ok names' ∧
        names <+: names' ∧ lineSymbol ⟨2017, 2⟩ ∈ names ∧ lineSymbol ⟨2017, 3⟩ ∉ names := by
  have accepted : Version.parse "2017.2" = .ok ⟨2017, 2, 0, 0⟩ := by decide +kernel
  have accepted' : Version.parse "2019.4.1f1" = .ok ⟨2019, 4, 1, 1⟩ := by decide +kernel
  obtain ⟨names, names', earlier, later, monotone, reached, -⟩ :=
    reachedBy_monotone accepted accepted'
  exact ⟨accepted, accepted', names, names', earlier, later, monotone (by decide),
    (reached 2017 2).2 (by decide), fun among => absurd ((reached 2017 3).1 among) (by decide)⟩

end Host

end PluginBuild
