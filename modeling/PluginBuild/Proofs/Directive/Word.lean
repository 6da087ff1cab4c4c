/-
# Proofs.Directive.Word -- conditions that are one word

A condition in which no operator and no parenthesis starts is one word with white space around it
(`exists_word_of_evaluate`).  A word that is no constant holds exactly if it is a symbol that is
defined (`evaluate_of_spells`).
-/
import PluginBuild.Proofs.Directive.Grammar

namespace PluginBuild.Directive

set_option autoImplicit false

open PluginBuild.Text

/-- The characters with which operators and parentheses start. -/
def operatorStarts : List Char := ['|', '&', '=', '!', '(', ')']

theorem Token.eq_word_of_spells {ts : List Token} {s : List Char} (h : Spells ts s)
    (bare : ∀ c ∈ operatorStarts, c ∉ s) : ∀ t ∈ ts, ∃ name, t = .word name := by
  induction h with
  | done blank => exact fun _ among => absurd among List.not_mem_nil
  | @token space t ts rest blank proper more ih =>
      have written : ∀ c ∈ operatorStarts, c ∉ t.text.toList := fun c operator among =>
        bare c operator (List.mem_append_right _ (List.mem_append_left _ among))
      refine List.forall_mem_cons.2 ⟨?_, ih fun c operator among =>
        bare c operator (List.mem_append_right _ (List.mem_append_right _ among))⟩
      cases t with
      | word name => exact ⟨name, rfl⟩
      | or => exact absurd List.mem_cons_self (written '|' (by decide))
      | and => exact absurd List.mem_cons_self (written '&' (by decide))
      | eq => exact absurd List.mem_cons_self (written '=' (by decide))
      | ne | not => exact absurd List.mem_cons_self (written '!' (by decide))
      | lparen => exact absurd List.mem_cons_self (written '(' (by decide))
      | rparen => exact absurd List.mem_cons_self (written ')' (by decide))

/-- A condition without operators is one word. -/
theorem exists_word_of_evaluate {text : String} {defined : SymbolSet} {line : Int} {value : Bool}
    (bare : ∀ c ∈ operatorStarts, c ∉ text.toList)
    (evaluated : evaluate text defined line = .ok value) :
    ∃ name, Token.Spells [.word name] text.toList ∧ (Expr.ofName name).holds defined = value := by
  unfold evaluate Expr.parse at evaluated
  cases scanned : Token.scan text.toList with
  | error rest =>
      rw [scanned] at evaluated
      cases evaluated
  | ok ts =>
      rw [scanned] at evaluated
      have spells := Token.spells_of_scan scanned
      have words := Token.eq_word_of_spells spells bare
      cases ts with
      | nil => cases evaluated
      | cons t ts =>
          obtain ⟨name, rfl⟩ := words t List.mem_cons_self
          cases ts with
          | nil =>
              cases evaluated
              exact ⟨name, spells, rfl⟩
          | cons t' ts =>
              -- no word may follow a word
              obtain ⟨name', rfl⟩ := words t' (List.mem_cons_of_mem _ List.mem_cons_self)
              cases evaluated

theorem Token.Spells.of_word {name : String} {s : List Char} (h : Spells [.word name] s) :
    ∃ space behind, s = space ++ (name.toList ++ behind) ∧ isName name.toList = true ∧
      (∀ c ∈ space, isBlank c = true) ∧ ∀ c ∈ behind, isBlank c = true := by
  cases h with
  | token blank proper more =>
      cases more with
      | done blank' => exact ⟨_, _, rfl, proper, blank, blank'⟩

theorem mem_of_holds_ofName {name : String} {defined : SymbolSet}
    (holds : (Expr.ofName name).holds defined = true) : name = "true" ∨ name ∈ defined := by
  unfold Expr.ofName at holds
  split at holds
  · next constant => exact .inl constant
  · split at holds
    · cases holds
    · exact .inr (of_decide_eq_true holds)

/-- A name that is no constant holds exactly if it is defined, with any white space around it. -/
theorem evaluate_of_spells {text : String} (name : SymbolName)
    (spells : Token.Spells [.word name.text] text.toList) (defined : SymbolSet) (line : Int) :
    evaluate text defined line = .ok (decide (name.text ∈ defined)) := by
  rw [evaluate, Expr.parse, Token.scan_of_spells spells (.singleton _)]
  show Except.ok ((Expr.ofName name.text).holds defined) = _
  rw [Expr.ofName, if_neg name.ne_true, if_neg name.ne_false, Expr.holds]

theorem spells_name (name : SymbolName) : Token.Spells [.word name.text] name.text.toList := by
  have spells : Token.Spells [.word name.text] (name.text.toList ++ []) :=
    Token.Spells.cons (.done nofun) name.named
  rwa [List.append_nil] at spells

end PluginBuild.Directive
