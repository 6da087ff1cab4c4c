/-
# Proofs.Directive.Spelling -- the texts that write some tokens

A text writes tokens when it is the tokens in order, with any white space before, between and
behind them (`Token.Spells`).  Scanning gives tokens that the text writes (`spells_of_scan`).
Without white space two words would be read as one, and `!` before `==` as `!=`; tokens among
which no such pair is adjacent are scanned from every text that writes them
(`scan_of_spells`).
-/
import PluginBuild.Directive.Token
import PluginBuild.Proofs.Except
import Mathlib.Data.List.Basic
import Mathlib.Data.List.Chain

namespace PluginBuild.Directive.Token

set_option autoImplicit false

open PluginBuild.Text

/-! ## Texts that write tokens -/

/-- Whether a token can be written: a word is a name. -/
def IsProper : Token → Prop
  | .word name => isName name.toList = true
  | _ => True

/-- Whether a text is tokens in order, with any white space around them. -/
inductive Spells : List Token → List Char → Prop
  | done {space : List Char} (blank : ∀ c ∈ space, isBlank c = true) : Spells [] space
  | token {space : List Char} {t : Token} {ts : List Token} {rest : List Char}
      (blank : ∀ c ∈ space, isBlank c = true) (proper : t.IsProper) (more : Spells ts rest) :
      Spells (t :: ts) (space ++ (t.text.toList ++ rest))

theorem Spells.isProper {ts : List Token} {s : List Char} (h : Spells ts s) :
    ∀ t ∈ ts, t.IsProper := by
  induction h with
  | done blank => exact fun _ ht => absurd ht List.not_mem_nil
  | token blank proper more ih =>
      intro t ht
      rcases List.mem_cons.1 ht with rfl | ht
      · exact proper
      · exact ih t ht

theorem Spells.cons_blank {ts : List Token} {s : List Char} {c : Char} (h : Spells ts s)
    (blank : isBlank c = true) : Spells ts (c :: s) := by
  cases h with
  | done blanks =>
      refine .done ?_
      intro d hd
      rcases List.mem_cons.1 hd with rfl | hd
      · exact blank
      · exact blanks d hd
  | @token space t ts rest blanks proper more =>
      have front : ∀ d ∈ c :: space, isBlank d = true := by
        intro d hd
        rcases List.mem_cons.1 hd with rfl | hd
        · exact blank
        · exact blanks d hd
      exact .token front proper more

theorem Spells.cons {t : Token} {ts : List Token} {rest : List Char} (h : Spells ts rest)
    (proper : t.IsProper) : Spells (t :: ts) (t.text.toList ++ rest) := by
  have front : ∀ c ∈ ([] : List Char), isBlank c = true := fun _ hc => absurd hc List.not_mem_nil
  exact .token front proper h

/-! ## Scanning is sound -/

theorem spells_of_scan {s : List Char} {ts : List Token} (h : scan s = .ok ts) : Spells ts s := by
  fun_induction scan s generalizing ts with
  | case1 =>
      cases h
      exact .done fun _ hc => absurd hc List.not_mem_nil
  | case2 rest ih | case3 rest ih | case4 rest ih | case5 rest ih | case6 rest _ ih
  | case7 rest ih | case8 rest ih =>
      obtain ⟨ts, scanned, rfl⟩ := exists_of_map_eq_ok h
      exact (ih scanned).cons trivial
  | case9 c rest _ _ _ _ _ _ _ blank ih => exact (ih h).cons_blank blank
  | case10 c rest _ _ _ _ _ _ _ _ starts ih =>
      obtain ⟨ts, scanned, rfl⟩ := exists_of_map_eq_ok h
      have proper : (word (String.ofList (c :: rest.takeWhile isNameChar))).IsProper := by
        simp only [IsProper, String.toList_ofList, isName, starts, Bool.true_and]
        exact List.all_takeWhile
      have spelled := (ih scanned).cons proper
      rw [text, String.toList_ofList, List.cons_append, List.takeWhile_append_dropWhile]
        at spelled
      exact spelled
  | case11 => cases h

/-! ## Scanning is complete -/

/-- What a character starts that starts no operator. -/
theorem scan_other {c : Char} (other : c ∉ ['|', '&', '=', '!', '(', ')']) (rest : List Char) :
    scan (c :: rest) =
      if isBlank c then scan rest
      else if isNameStart c then
        (.word (String.ofList (c :: rest.takeWhile isNameChar)) :: ·)
          <$> scan (rest.dropWhile isNameChar)
      else .error (c :: rest) := by
  simp only [List.mem_cons, List.not_mem_nil, or_false, not_or] at other
  obtain ⟨noBar, noAnd, noEqual, noBang, noOpen, noClose⟩ := other
  exact scan.eq_9 c rest (fun _ bar _ => noBar bar) (fun _ and _ => noAnd and)
    (fun _ equal _ => noEqual equal) (fun _ bang _ => noBang bang) noBang noOpen noClose

theorem scan_blanks_append {space : List Char} (blank : ∀ c ∈ space, isBlank c = true)
    (rest : List Char) : scan (space ++ rest) = scan rest := by
  have visible : ∀ c ∈ ['|', '&', '=', '!', '(', ')'], isBlank c = false :=
    List.forall_iff_forall_mem.1 (by decide)
  induction space with
  | nil => rfl
  | cons c space ih =>
      have blankFirst := blank c List.mem_cons_self
      have other : c ∉ ['|', '&', '=', '!', '(', ')'] := by
        intro operator
        rw [visible c operator] at blankFirst
        cases blankFirst
      rw [List.cons_append, scan_other other, if_pos blankFirst]
      exact ih fun d hd => blank d (List.mem_cons_of_mem _ hd)

/-- No character of a name is white space. -/
theorem isBlank_of_isNameChar {c : Char} (named : isNameChar c = true) : isBlank c = false := by
  have code : c.toNat = 95 ∨ (48 ≤ c.toNat ∧ c.toNat ≤ 57) ∨ (65 ≤ c.toNat ∧ c.toNat ≤ 90) ∨
      (97 ≤ c.toNat ∧ c.toNat ≤ 122) := by
    change (c.isUpper || c.isLower || c.isDigit || c == '_') = true at named
    simp only [Bool.or_eq_true, beq_iff_eq] at named
    rcases named with ((upper | lower) | digit) | rfl
    · exact .inr (.inr (.inl (of_decide_eq_true upper)))
    · obtain ⟨low, high⟩ := Bool.and_eq_true_iff.1 lower
      exact .inr (.inr (.inr ⟨of_decide_eq_true low, of_decide_eq_true high⟩))
    · obtain ⟨low, high⟩ := Bool.and_eq_true_iff.1 digit
      exact .inr (.inl ⟨of_decide_eq_true low, of_decide_eq_true high⟩)
    · exact .inl rfl
  rw [← Bool.not_eq_true, isBlank, CharClass.contains_iff]
  rintro ⟨r, among, low, high⟩
  simp only [blanks, List.mem_cons, List.not_mem_nil, or_false] at among
  rcases among with rfl | rfl | rfl | rfl | rfl | rfl | rfl | rfl | rfl | rfl <;>
    simp only at low high <;> omega

theorem isNameChar_of_isNameStart {c : Char} (starts : isNameStart c = true) :
    isNameChar c = true := by
  simp only [isNameStart, Bool.or_eq_true] at starts
  simp only [isNameChar, Char.isAlphanum, Bool.or_eq_true]
  rcases starts with letter | underscore
  · exact .inl (.inl letter)
  · exact .inr underscore

theorem scan_name {c : Char} {name rest : List Char} (starts : isNameStart c = true)
    (chars : name.all isNameChar = true) (ends : ∀ c ∈ rest.head?, isNameChar c = false) :
    scan (c :: (name ++ rest)) = (.word (String.ofList (c :: name)) :: ·) <$> scan rest := by
  rw [List.all_eq_true] at chars
  have stops : rest.takeWhile isNameChar = [] ∧ rest.dropWhile isNameChar = rest := by
    cases rest with
    | nil => exact ⟨rfl, rfl⟩
    | cons d rest =>
        have other := ends d rfl
        constructor
        · rw [List.takeWhile_cons, other, if_neg Bool.false_ne_true]
        · rw [List.dropWhile_cons, other, if_neg Bool.false_ne_true]
  have noName : ∀ d ∈ ['|', '&', '=', '!', '(', ')'], isNameStart d = false :=
    List.forall_iff_forall_mem.1 (by decide)
  have other : c ∉ ['|', '&', '=', '!', '(', ')'] := by
    intro operator
    rw [noName c operator] at starts
    cases starts
  have visible := isBlank_of_isNameChar (isNameChar_of_isNameStart starts)
  rw [scan_other other, visible, if_neg Bool.false_ne_true, if_pos starts,
    List.takeWhile_append_of_pos chars, List.dropWhile_append_of_pos chars, stops.1, stops.2,
    List.append_nil]

/-- Whether a token ends where `rest` begins. -/
def EndsBefore (rest : List Char) : Token → Prop
  | .word _ => ∀ c ∈ rest.head?, isNameChar c = false
  | .not => ∀ c ∈ rest.head?, c ≠ '='
  | _ => True

theorem scan_token {t : Token} {rest : List Char} (proper : t.IsProper)
    (ends : t.EndsBefore rest) : scan (t.text.toList ++ rest) = (t :: ·) <$> scan rest := by
  cases t with
  | or => exact scan.eq_2 rest
  | and => exact scan.eq_3 rest
  | eq => exact scan.eq_4 rest
  | ne => exact scan.eq_5 rest
  | lparen => exact scan.eq_7 rest
  | rparen => exact scan.eq_8 rest
  | not =>
      refine scan.eq_6 rest ?_
      rintro more rfl
      exact ends '=' rfl rfl
  | word name =>
      have proper : isName name.toList = true := proper
      have whole : name = String.ofList name.toList := String.ofList_toList.symm
      show scan (name.toList ++ rest) = _
      rw [whole]
      generalize name.toList = chars at proper ⊢
      cases chars with
      | nil => cases proper
      | cons c chars =>
          rw [isName, Bool.and_eq_true] at proper
          rw [String.toList_ofList]
          exact scan_name proper.1 proper.2 ends

/-- Whether two tokens are told apart where no white space is between them. -/
def StaysApart : Token → Token → Prop
  | .word _, .word _ => False
  | .not, .eq => False
  | _, _ => True

/-- A text that writes tokens starts with white space or with the first of them. -/
theorem Spells.of_head? {P : Char → Prop} {ts : List Token} {s : List Char} (h : Spells ts s)
    (ofBlank : ∀ c, isBlank c = true → P c)
    (ofToken : ∀ t ∈ ts.head?, t.IsProper → ∃ c chars, t.text.toList = c :: chars ∧ P c) :
    ∀ c ∈ s.head?, P c := by
  cases h with
  | done blank =>
      intro c hc
      exact ofBlank c (blank c (List.mem_of_mem_head? hc))
  | @token space t ts rest blank proper more =>
      cases space with
      | nil =>
          obtain ⟨c, chars, shown, holds⟩ := ofToken t rfl proper
          rw [shown]
          rintro _ ⟨⟩
          exact holds
      | cons d space =>
          rintro _ ⟨⟩
          exact ofBlank d (blank d List.mem_cons_self)

/-- A token ends before white space, before a token that it stays apart from, and at the end. -/
theorem Spells.endsBefore {t : Token} {ts : List Token} {rest : List Char} (h : Spells ts rest)
    (apart : ∀ t' ∈ ts.head?, t.StaysApart t') : t.EndsBefore rest := by
  cases t with
  | word name =>
      refine h.of_head? (fun c blank => ?_) fun t' first proper => ?_
      · rw [← Bool.not_eq_true]
        intro named
        rw [isBlank_of_isNameChar named] at blank
        cases blank
      · cases t' with
        | word name' => exact (apart _ first).elim
        | _ => exact ⟨_, _, rfl, by decide⟩
  | not =>
      refine h.of_head? (fun c blank => ?_) fun t' first proper => ?_
      · rintro rfl
        cases blank
      · cases t' with
        | eq => exact (apart _ first).elim
        | word name =>
            have proper : isName name.toList = true := proper
            show ∃ c chars, name.toList = c :: chars ∧ c ≠ '='
            cases chars : name.toList with
            | nil =>
                rw [chars] at proper
                cases proper
            | cons c chars =>
                rw [chars, isName, Bool.and_eq_true] at proper
                refine ⟨c, _, rfl, ?_⟩
                rintro rfl
                cases proper.1
        | _ => exact ⟨_, _, rfl, by decide⟩
  | _ => trivial

/-- Tokens are scanned from every text that writes them, unless two would run together. -/
theorem scan_of_spells {ts : List Token} {s : List Char} (h : Spells ts s)
    (apart : ts.IsChain StaysApart) : scan s = .ok ts := by
  induction h with
  | done blank =>
      have scanned := scan_blanks_append blank []
      rw [List.append_nil] at scanned
      rw [scanned, scan]
  | @token space t ts rest blank proper more ih =>
      rw [List.isChain_cons] at apart
      rw [scan_blanks_append blank, scan_token proper (more.endsBefore apart.1), ih apart.2]
      rfl

end PluginBuild.Directive.Token
