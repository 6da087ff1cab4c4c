/-
# Proofs.Number.Integer -- the characters of whole numbers

A whole number is written with ASCII digits and perhaps a minus sign (`mem_toString`).  More texts
are read as one: the digits may be of any script, with underscores between them, and a sign and
padding may stand around them (`isNumeric_of_parse?`).
-/
import PluginBuild.Number.Integer

namespace PluginBuild.Number

set_option autoImplicit false

open PluginBuild.Text

/-- Whether a character may stand in a text that is read as a whole number. -/
def isNumeric (c : Char) : Bool :=
  padding.contains c || c == '+' || c == '-' || c == '_' || (digitValue c).isSome

theorem isNumeric_of_padding {c : Char} (padded : padding.contains c = true) :
    isNumeric c = true := by
  simp [isNumeric, padded]

theorem isNumeric_of_digitValue {c : Char} {n : Nat} (digit : digitValue c = some n) :
    isNumeric c = true := by
  simp [isNumeric, digit]

theorem mem_unpadded {s : List Char} {c : Char} (among : c ∈ s) :
    padding.contains c = true ∨ c ∈ unpadded s := by
  have dropped : ∀ l : List Char, c ∈ l →
      padding.contains c = true ∨ c ∈ l.dropWhile padding.contains := by
    intro l among
    rw [← List.takeWhile_append_dropWhile (p := padding.contains) (l := l), List.mem_append]
      at among
    exact among.imp_left fun taken => List.all_eq_true.1 List.all_takeWhile c taken
  rcases dropped s among with padded | left
  · exact .inl padded
  · rw [unpadded, List.mem_reverse]
    exact dropped _ (List.mem_reverse.2 left)

theorem mem_signed {s : List Char} {c : Char} (among : c ∈ s) :
    c = '-' ∨ c = '+' ∨ c ∈ (signed s).2 := by
  unfold signed
  split
  · exact (List.mem_cons.1 among).imp_right .inr
  · exact .inr (List.mem_cons.1 among)
  · exact .inr (.inr among)

theorem isNumeric_of_digits? {s : List Char} {digits : List Nat} (read : digits? s = some digits) :
    ∀ c ∈ s, isNumeric c = true := by
  fun_induction digits? s generalizing digits with
  | case1 => cases read
  | case2 c =>
      obtain ⟨n, digit, -⟩ := Option.map_eq_some_iff.1 read
      exact List.forall_mem_singleton.2 (isNumeric_of_digitValue digit)
  | case3 c rest ih =>
      obtain ⟨n, digit, more⟩ := Option.bind_eq_some_iff.1 read
      obtain ⟨left, read, -⟩ := Option.bind_eq_some_iff.1 more
      have underscore : isNumeric '_' = true := by decide
      exact List.forall_mem_cons.2
        ⟨isNumeric_of_digitValue digit, List.forall_mem_cons.2 ⟨underscore, ih read⟩⟩
  | case4 c rest _ _ ih =>
      obtain ⟨n, digit, more⟩ := Option.bind_eq_some_iff.1 read
      obtain ⟨left, read, -⟩ := Option.bind_eq_some_iff.1 more
      exact List.forall_mem_cons.2 ⟨isNumeric_of_digitValue digit, ih read⟩

namespace Integer

/-- The characters of a text that is read as a whole number. -/
theorem isNumeric_of_parse? {s : String} {n : Int} (read : parse? s = some n) :
    ∀ c ∈ s.toList, isNumeric c = true := by
  intro c among
  obtain ⟨digits, readDigits, -⟩ := Option.bind_eq_some_iff.1 read
  rcases mem_unpadded among with padded | inside
  · exact isNumeric_of_padding padded
  · rcases mem_signed inside with rfl | rfl | digit
    · decide
    · decide
    · exact isNumeric_of_digits? readDigits c digit

/-- The characters with which a whole number is written: digits, and a minus sign in front of
those of a negative one. -/
theorem mem_toString {n : Int} {c : Char} (among : c ∈ (toString n).toList) :
    c = '-' ∧ n < 0 ∨ c.isDigit = true := by
  have digit : ∀ m : Nat, c ∈ m.repr.toList → c.isDigit = true := by
    intro m among
    rw [Nat.repr_eq_ofList_toDigits, String.toList_ofList] at among
    exact Nat.isDigit_of_mem_toDigits (by decide) (by decide) among
  rw [Int.toString_eq_repr, Int.repr_eq_if] at among
  split at among
  · exact .inr (digit _ among)
  · next negative =>
      rw [String.toList_append, List.mem_append] at among
      rcases among with sign | among
      · exact .inl ⟨List.mem_singleton.1 sign, Int.not_le.1 negative⟩
      · exact .inr (digit _ among)

end Integer

end PluginBuild.Number
