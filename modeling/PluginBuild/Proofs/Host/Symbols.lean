/-
# Proofs.Host.Symbols -- whether plugins can test what a host defines

A plugin can test a symbol where a condition that is the symbol alone is true.  The symbols of the
platform, of a debug build and of release lines are names, for which this is so.  The symbols of a
version are made from its pieces as they are written, and a piece that is read as a number need
not consist of characters of names: it may have a sign, white space around it and digits of any
script.

No such character starts an operator, so what is not a name is not a condition that holds either
(`evaluate_eq_true_iff`): of a symbol with white space behind it, the condition is about the word
before the white space, which is no symbol of the host.  So all symbols of a host can be tested
exactly if the first three pieces of its version consist of characters of names
(`symbols_testable`).
-/
import PluginBuild.Proofs.Directive.Word
import PluginBuild.Proofs.Host.Release
import PluginBuild.Proofs.Text.Split

namespace PluginBuild

set_option autoImplicit false

/-! ## The pieces of a version -/

namespace Version

/-- The first pieces of an accepted version are numbers. -/
theorem isNumeric_of_parse {s : String} {v : Version} (accepted : parse s = .ok v) :
    ∀ piece ∈ (pieces s).take 3, ∀ c ∈ piece.toList, Number.isNumeric c = true := by
  intro piece among
  have read : piece ∈ (pieces s ++ List.replicate 4 "0").take 4 := by
    refine List.take_subset_take_left _ (by decide : 3 ≤ 4) ?_
    rw [List.take_append]
    exact List.mem_append_left _ among
  unfold parse at accepted
  split at accepted
  · next numbers =>
      have among := List.mem_map_of_mem (f := Number.Integer.parse?) read
      rw [mapM_eq_some_iff.1 numbers] at among
      obtain ⟨n, -, number⟩ := List.mem_map.1 among
      exact Number.Integer.isNumeric_of_parse? number.symm
  · cases accepted

end Version

namespace Host

open PluginBuild.Directive PluginBuild.Text

variable {h : Host} {version s t : String} {ps : List String} {v : Version} {names : List String}

/-- The symbol of some pieces of a version. -/
def piecesSymbol (ps : List String) : String := "UNITY_" ++ "_".intercalate ps

theorem mem_versionSymbols : s ∈ versionSymbols version ↔
    ∃ n < min (Version.pieces version).length 3,
      piecesSymbol ((Version.pieces version).take (n + 1)) = s := by
  simp only [versionSymbols, List.mem_map, List.mem_range]
  exact Iff.rfl

theorem toList_piecesSymbol (ps : List String) : (piecesSymbol ps).toList =
    'U' :: (['N', 'I', 'T', 'Y', '_'] ++ ['_'].intercalate (ps.map String.toList)) := by
  rw [piecesSymbol, String.toList_append, String.toList_intercalate,
    show "UNITY_".toList = ['U', 'N', 'I', 'T', 'Y', '_'] from rfl]
  rfl

/-- The symbol of pieces is a name exactly if they consist of characters of names. -/
theorem isName_piecesSymbol : isName (piecesSymbol ps).toList = true ↔
    ∀ piece ∈ ps, piece.toList.all isNameChar = true := by
  have underscore : ∀ c ∈ ['_'], isNameChar c = true := List.forall_mem_singleton.2 (by decide)
  rw [toList_piecesSymbol, isName, List.all_append, ← Bool.and_assoc,
    show (isNameStart 'U' && ['N', 'I', 'T', 'Y', '_'].all isNameChar) = true by decide,
    Bool.true_and, List.all_eq_true, forall_mem_intercalate underscore, List.forall_mem_map]
  simp only [List.all_eq_true]

theorem piecesSymbol_append {qs : List String} (nonempty : ps ≠ []) (nonempty' : qs ≠ []) :
    piecesSymbol (ps ++ qs) = piecesSymbol ps ++ "_" ++ "_".intercalate qs := by
  rw [piecesSymbol, piecesSymbol, String.intercalate_append_of_ne_nil nonempty nonempty',
    ← String.append_assoc, ← String.append_assoc]

/-- Of the symbols of a version, those of more pieces go on with an underscore. -/
theorem piecesSymbol_isPrefix {m n : Nat} (fewer : m < n) (within : n < ps.length) :
    (piecesSymbol (ps.take (m + 1))).toList ++ ['_'] <+:
      (piecesSymbol (ps.take (n + 1))).toList := by
  have nonempty : ps.take (m + 1) ≠ [] := by
    rw [← List.length_pos_iff, List.length_take]
    omega
  obtain ⟨qs, split⟩ : ps.take (m + 1) <+: ps.take (n + 1) :=
    List.take_prefix_take_left (by omega)
  have nonempty' : qs ≠ [] := by
    rintro rfl
    have lengths := congrArg List.length split
    rw [List.append_nil, List.length_take, List.length_take] at lengths
    omega
  rw [← split, piecesSymbol_append nonempty nonempty', String.toList_append, String.toList_append]
  exact List.prefix_append _ _

theorem not_append_singleton_isPrefix {α : Type} (l : List α) (a : α) : ¬l ++ [a] <+: l := by
  intro front
  have shorter := front.length_le
  rw [List.length_append, List.length_singleton] at shorter
  omega

theorem versionSymbols_cases (first : s ∈ versionSymbols version)
    (second : t ∈ versionSymbols version) :
    s = t ∨ s.toList ++ ['_'] <+: t.toList ∨ t.toList ++ ['_'] <+: s.toList := by
  obtain ⟨m, below, rfl⟩ := mem_versionSymbols.1 first
  obtain ⟨n, below', rfl⟩ := mem_versionSymbols.1 second
  rcases lt_trichotomy m n with fewer | rfl | more
  · exact .inr (.inl (piecesSymbol_isPrefix fewer (by omega)))
  · exact .inl rfl
  · exact .inr (.inr (piecesSymbol_isPrefix more (by omega)))

theorem nodup_versionSymbols (version : String) : (versionSymbols version).Nodup := by
  refine List.pairwise_map.2 (List.pairwise_lt_range.imp_of_mem ?_)
  intro m n _ below fewer same
  rw [List.mem_range] at below
  have within : n < (Version.pieces version).length := by omega
  have front := piecesSymbol_isPrefix fewer within
  rw [piecesSymbol, same] at front
  exact not_append_singleton_isPrefix _ _ front

/-- The characters of the symbols of a version. -/
theorem chars_of_versionSymbols (accepted : Version.parse version = .ok v)
    (among : s ∈ versionSymbols version) :
    ∀ c ∈ s.toList, c ∈ ['U', 'N', 'I', 'T', 'Y'] ∨ Number.isNumeric c = true := by
  obtain ⟨n, below, rfl⟩ := mem_versionSymbols.1 among
  have numeric : ∀ c ∈ ['_'].intercalate
      (((Version.pieces version).take (n + 1)).map String.toList), Number.isNumeric c = true := by
    rw [forall_mem_intercalate (List.forall_mem_singleton.2 (by decide)), List.forall_mem_map]
    intro piece taken
    exact Version.isNumeric_of_parse accepted piece
      (List.take_subset_take_left _ (by omega : n + 1 ≤ 3) taken)
  have front : ∀ c ∈ ['U', 'N', 'I', 'T', 'Y', '_'],
      c ∈ ['U', 'N', 'I', 'T', 'Y'] ∨ Number.isNumeric c = true :=
    List.forall_iff_forall_mem.1 (by decide)
  rw [toList_piecesSymbol, ← List.cons_append]
  exact List.forall_mem_append.2 ⟨front, fun c inside => .inr (numeric c inside)⟩

/-! ## The other symbols -/

/-- The symbols of a host that its version has no part in. -/
def constantSymbols (platform : Platform) (debugBuild : Bool) : List String :=
  [baseSymbol, platformSymbol platform] ++ if debugBuild then [debugSymbol] else []

theorem symbols_eq_ok_iff : h.symbols = .ok names ↔ ∃ v, Version.parse h.version = .ok v ∧
    names = constantSymbols h.platform h.debugBuild ++ versionSymbols h.version
      ++ reachedSymbols v := by
  constructor
  · intro made
    obtain ⟨v, accepted, made⟩ := exists_of_bind_eq_ok made
    cases made
    exact ⟨v, accepted, rfl⟩
  · rintro ⟨v, accepted, rfl⟩
    rw [symbols, accepted]
    rfl

theorem nodup_constantSymbols (platform : Platform) (debugBuild : Bool) :
    (constantSymbols platform debugBuild).Nodup := by
  cases platform <;> cases debugBuild <;> decide

/-- Symbols apart from those of a version have an E, and among them those of release lines an R. -/
theorem of_mem_constantSymbols {platform : Platform} {debugBuild : Bool}
    (among : s ∈ constantSymbols platform debugBuild) :
    isName s.toList = true ∧ 'E' ∈ s.toList ∧ 'R' ∉ s.toList := by
  have each : ∀ s ∈ constantSymbols platform debugBuild,
      isName s.toList = true ∧ 'E' ∈ s.toList ∧ 'R' ∉ s.toList := by
    cases platform <;> cases debugBuild <;> decide
  exact each s among

theorem isName_lineSymbol {line : ReleaseLine} (major : 0 ≤ line.major) (minor : 0 ≤ line.minor) :
    isName (lineSymbol line).toList = true := by
  have digits : ∀ n : Int, 0 ≤ n → (toString n).toList.all isNameChar = true := by
    intro n nonneg
    rw [List.all_eq_true]
    intro c among
    rcases Number.Integer.mem_toString among with ⟨-, negative⟩ | digit
    · omega
    · simp [isNameChar, Char.isAlphanum, digit]
  have written : (lineSymbol line).toList = 'U' :: (['N', 'I', 'T', 'Y', '_'] ++
      (toString line.major).toList ++ ['_'] ++ (toString line.minor).toList ++
      ['_', 'O', 'R', '_', 'N', 'E', 'W', 'E', 'R']) := by
    simp [lineSymbol]
  rw [written, isName, List.all_append, List.all_append, List.all_append, List.all_append,
    digits _ major, digits _ minor]
  decide

theorem of_mem_reachedSymbols (among : s ∈ reachedSymbols v) :
    isName s.toList = true ∧ 'E' ∈ s.toList ∧ 'R' ∈ s.toList := by
  have nonneg : ∀ line ∈ releaseLines, 0 ≤ line.major ∧ 0 ≤ line.minor := by decide
  obtain ⟨line, reached, rfl⟩ := List.mem_map.1 among
  obtain ⟨major, minor⟩ := nonneg line (List.mem_of_mem_filter reached)
  exact ⟨isName_lineSymbol major minor, by simp [lineSymbol], by simp [lineSymbol]⟩

/-! ## All symbols of a host -/

/-- A symbol of a host is a name, with a letter that no version has, or one of its version. -/
theorem cases_of_symbols (accepted : h.symbols = .ok names) (among : s ∈ names) :
    isName s.toList = true ∧ 'E' ∈ s.toList ∨ s ∈ versionSymbols h.version := by
  obtain ⟨v, -, rfl⟩ := symbols_eq_ok_iff.1 accepted
  rcases List.mem_append.1 among with among | reached
  · rcases List.mem_append.1 among with constant | ofVersion
    · obtain ⟨named, letter, -⟩ := of_mem_constantSymbols constant
      exact .inl ⟨named, letter⟩
    · exact .inr ofVersion
  · obtain ⟨named, letter, -⟩ := of_mem_reachedSymbols reached
    exact .inl ⟨named, letter⟩

theorem nodup_symbols (accepted : h.symbols = .ok names) : names.Nodup := by
  obtain ⟨v, parsed, rfl⟩ := symbols_eq_ok_iff.1 accepted
  have noLetter : ∀ s ∈ versionSymbols h.version, 'E' ∉ s.toList := fun s among inside =>
    absurd (chars_of_versionSymbols parsed among 'E' inside) (by decide)
  refine List.nodup_append.2 ⟨List.nodup_append.2 ⟨nodup_constantSymbols _ _,
    nodup_versionSymbols _, ?_⟩, nodup_reachedSymbols v, ?_⟩
  · rintro s constant _ ofVersion rfl
    exact noLetter s ofVersion (of_mem_constantSymbols constant).2.1
  · rintro s among _ reached rfl
    obtain ⟨-, letter, letter'⟩ := of_mem_reachedSymbols reached
    rcases List.mem_append.1 among with constant | ofVersion
    · exact (of_mem_constantSymbols constant).2.2 letter'
    · exact noLetter s ofVersion letter

/-- No symbol of a host is a constant of conditions. -/
theorem ne_constant_of_symbols (accepted : h.symbols = .ok names) (among : s ∈ names) :
    s ≠ "true" ∧ s ≠ "false" := by
  have capital : 'E' ∈ s.toList ∨ 'U' ∈ s.toList := by
    rcases cases_of_symbols accepted among with ⟨-, letter⟩ | ofVersion
    · exact .inl letter
    · obtain ⟨n, -, rfl⟩ := mem_versionSymbols.1 ofVersion
      rw [toList_piecesSymbol]
      exact .inr List.mem_cons_self
  constructor
  · rintro rfl
    revert capital
    decide
  · rintro rfl
    revert capital
    decide

/-- What a symbol of a version is followed by in a longer one is no white space. -/
theorem eq_of_append_blanks {behind : List Char} (first : s ∈ versionSymbols version)
    (second : t ∈ versionSymbols version) (written : t.toList = s.toList ++ behind)
    (blank : ∀ c ∈ behind, isBlank c = true) : s = t := by
  rcases versionSymbols_cases first second with same | ⟨rest, longer⟩ | shorter
  · exact same
  · rw [written, List.append_assoc, List.append_cancel_left_eq] at longer
    exact absurd (blank '_' (longer ▸ List.mem_cons_self)) (by decide)
  · have lengths := shorter.length_le
    rw [written, List.length_append, List.length_append, List.length_singleton] at lengths
    omega

theorem space_eq_nil_of_mem_versionSymbols {space behind : List Char}
    (among : s ∈ versionSymbols version) (written : s.toList = space ++ behind)
    (blank : ∀ c ∈ space, isBlank c = true) : space = [] := by
  obtain ⟨n, -, rfl⟩ := mem_versionSymbols.1 among
  rw [toList_piecesSymbol] at written
  cases space with
  | nil => rfl
  | cons c space =>
      cases (List.cons.inj written).1
      exact absurd (blank 'U' List.mem_cons_self) (by decide)

/-- A symbol of a version that is a condition that holds is a name: the word that the condition is
about is a symbol of the host without the letters of others, so it is the symbol itself. -/
theorem isName_of_evaluate (accepted : h.symbols = .ok names)
    (ofVersion : s ∈ versionSymbols h.version) {line : Int}
    (holds : evaluate s (.ofList names) line = .ok true) : isName s.toList = true := by
  obtain ⟨v, parsed, -⟩ := symbols_eq_ok_iff.1 accepted
  have foreign : ∀ c ∈ 't' :: 'E' :: operatorStarts, c ∉ s.toList := by
    have apart : ∀ c ∈ 't' :: 'E' :: operatorStarts,
        ¬(c ∈ ['U', 'N', 'I', 'T', 'Y'] ∨ Number.isNumeric c = true) :=
      List.forall_iff_forall_mem.1 (by decide)
    exact fun c among inside => apart c among (chars_of_versionSymbols parsed ofVersion c inside)
  obtain ⟨name, spells, holds⟩ := exists_word_of_evaluate
    (fun c operator => foreign c (List.mem_cons_of_mem _ (List.mem_cons_of_mem _ operator))) holds
  obtain ⟨space, behind, written, named, blank, blank'⟩ := spells.of_word
  rw [space_eq_nil_of_mem_versionSymbols ofVersion written blank, List.nil_append] at written
  have inside : ∀ c ∈ name.toList, c ∈ s.toList := fun c among =>
    written ▸ List.mem_append_left _ among
  rcases mem_of_holds_ofName holds with rfl | defined
  · exact absurd (inside 't' (by decide)) (foreign 't' List.mem_cons_self)
  · rcases cases_of_symbols accepted (SymbolSet.mem_ofList.1 defined) with ⟨-, letter⟩ | ofVersion'
    · exact absurd (inside 'E' letter)
        (foreign 'E' (List.mem_cons_of_mem _ List.mem_cons_self))
    · cases eq_of_append_blanks ofVersion' ofVersion written blank'
      exact named

/-- A symbol of a host can be tested exactly if it is a name. -/
theorem evaluate_eq_true_iff (accepted : h.symbols = .ok names) (among : s ∈ names) {line : Int} :
    evaluate s (.ofList names) line = .ok true ↔ isName s.toList = true := by
  constructor
  · intro holds
    rcases cases_of_symbols accepted among with ⟨named, -⟩ | ofVersion
    · exact named
    · exact isName_of_evaluate accepted ofVersion holds
  · intro named
    obtain ⟨ne_true, ne_false⟩ := ne_constant_of_symbols accepted among
    rw [evaluate_of_spells ⟨s, named, ne_true, ne_false⟩ (spells_name _),
      decide_eq_true (SymbolSet.mem_ofList.2 among)]

/-- All symbols of a host are names exactly if the pieces in them are of characters of names. -/
theorem isName_symbols_iff (accepted : h.symbols = .ok names) :
    (∀ s ∈ names, isName s.toList = true) ↔
      ∀ piece ∈ (Version.pieces h.version).take 3, piece.toList.all isNameChar = true := by
  obtain ⟨v, -, made⟩ := symbols_eq_ok_iff.1 accepted
  constructor
  · intro named piece taken
    -- the longest symbol has all of the pieces
    have positive : 0 < min (Version.pieces h.version).length 3 := by
      rw [Nat.min_comm, ← List.length_take]
      exact List.length_pos_of_mem taken
    have all : ((Version.pieces h.version).take
        (min (Version.pieces h.version).length 3 - 1 + 1)) = (Version.pieces h.version).take 3 := by
      rw [Nat.sub_add_cancel positive, List.take_eq_take_iff]
      omega
    have ofVersion : piecesSymbol ((Version.pieces h.version).take 3) ∈ names := by
      rw [made]
      refine List.mem_append_left _ (List.mem_append_right _ (mem_versionSymbols.2 ?_))
      exact ⟨_, Nat.sub_lt positive Nat.one_pos, congrArg piecesSymbol all⟩
    exact isName_piecesSymbol.1 (named _ ofVersion) piece taken
  · intro plain s among
    rcases cases_of_symbols accepted among with ⟨named, -⟩ | ofVersion
    · exact named
    · obtain ⟨n, below, rfl⟩ := mem_versionSymbols.1 ofVersion
      rw [isName_piecesSymbol]
      exact fun piece taken => plain piece (List.take_subset_take_left _ (by omega) taken)

/-- The symbols of a host are different, no constants, and names unless they are of its version.
Exactly the names among them hold as conditions, and all of them are names exactly if the first
three pieces of the version consist of characters of names. -/
theorem symbols_testable (accepted : h.symbols = .ok names) :
    names.Nodup ∧ (∀ s ∈ names, s ≠ "true" ∧ s ≠ "false") ∧
      (∀ s ∈ names, isName s.toList = true ∨ s ∈ versionSymbols h.version) ∧
      (∀ s ∈ names, ∀ line,
        evaluate s (.ofList names) line = .ok true ↔ isName s.toList = true) ∧
      ((∀ s ∈ names, isName s.toList = true) ↔
        ∀ piece ∈ (Version.pieces h.version).take 3, piece.toList.all isNameChar = true) :=
  ⟨nodup_symbols accepted, fun _ among => ne_constant_of_symbols accepted among,
    fun _ among => (cases_of_symbols accepted among).imp_left And.left,
    fun _ among _ => evaluate_eq_true_iff accepted among, isName_symbols_iff accepted⟩

theorem symbols_testable_released :
    ∃ names, symbols ⟨"2019.4.1f1", .linux, true, none⟩ = .ok names ∧ "UNITY_2019_4_1" ∈ names ∧
      ∀ s ∈ names, ∀ line, evaluate s (.ofList names) line = .ok true := by
  have accepted : symbols ⟨"2019.4.1f1", .linux, true, none⟩ = .ok (constantSymbols .linux true ++
      versionSymbols "2019.4.1f1" ++ reachedSymbols ⟨2019, 4, 1, 1⟩) :=
    symbols_eq_ok_iff.2 ⟨_, by decide +kernel, rfl⟩
  obtain ⟨-, -, -, holds, plain⟩ := symbols_testable accepted
  refine ⟨_, accepted, by decide +kernel, fun s among line => (holds s among line).2 ?_⟩
  exact plain.2 (by decide +kernel) s among

/-- A space behind a version is read over, and stands in a symbol that is no name and does not
hold. -/
theorem symbols_testable_padded :
    ∃ names, symbols ⟨"2019.4 ", .linux, false, none⟩ = .ok names ∧ "UNITY_2019_4 " ∈ names ∧
      isName "UNITY_2019_4 ".toList = false ∧
      evaluate "UNITY_2019_4 " (.ofList names) 1 = .ok false := by
  have accepted : symbols ⟨"2019.4 ", .linux, false, none⟩ = .ok (constantSymbols .linux false ++
      versionSymbols "2019.4 " ++ reachedSymbols ⟨2019, 4, 0, 0⟩) :=
    symbols_eq_ok_iff.2 ⟨_, by decide +kernel, rfl⟩
  refine ⟨_, accepted, by decide +kernel, by decide, ?_⟩
  have spells : Token.Spells [.word "UNITY_2019_4"] "UNITY_2019_4 ".toList :=
    Token.Spells.cons (t := .word "UNITY_2019_4")
      (.done (List.forall_mem_singleton.2 (by decide))) rfl
  rw [evaluate_of_spells ⟨"UNITY_2019_4", rfl, by decide, by decide⟩ spells, decide_eq_false]
  rw [SymbolSet.mem_ofList]
  decide +kernel

end Host

end PluginBuild
