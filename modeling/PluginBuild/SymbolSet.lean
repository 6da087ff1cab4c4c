/-
# SymbolSet -- the symbols that are defined

A set of symbols is kept as its strictly increasing list, so two sets with the
same members are the same value (`SymbolSet.ext_mem`) and listing a set needs no
sorting.  `mem_insert`, `mem_erase` and `mem_ofList` say what the operations do
to membership.
-/
namespace PluginBuild

set_option autoImplicit false

/-- A finite set of symbols, as the list of its members in increasing order. -/
structure SymbolSet where
  toList : List String
  increasing : toList.Pairwise (· < ·)
deriving DecidableEq

namespace SymbolSet

/-- Puts `s` at its place in an increasing list that may hold it already. -/
def insertIn (s : String) : List String → List String
  | [] => [s]
  | t :: rest => if s < t then s :: t :: rest else if s = t then t :: rest else t :: insertIn s rest

theorem mem_insertIn {s x : String} {l : List String} :
    x ∈ insertIn s l ↔ x = s ∨ x ∈ l := by
  fun_induction insertIn s l with
  | case1 => simp
  | case2 t rest h => simp
  | case3 rest h => simp
  | case4 t rest h h' ih => simp [ih]; grind

theorem lt_of_not_lt_of_ne {s t : String} (h : ¬s < t) (h' : ¬s = t) : t < s := by
  rcases String.le_total s t with le | le
  · exact absurd (String.le_antisymm le (String.not_lt.1 h)) h'
  · exact String.not_le.1 fun le' => h' (String.le_antisymm le' le)

theorem increasing_insertIn {s : String} {l : List String} (h : l.Pairwise (· < ·)) :
    (insertIn s l).Pairwise (· < ·) := by
  fun_induction insertIn s l with
  | case1 => simp
  | case2 t rest lt =>
    refine List.pairwise_cons.2 ⟨fun x hx => ?_, h⟩
    rcases List.mem_cons.1 hx with rfl | hx
    · exact lt
    · exact String.lt_trans lt (List.rel_of_pairwise_cons h hx)
  | case3 rest _ => exact h
  | case4 t rest lt ne ih =>
    refine List.pairwise_cons.2 ⟨fun x hx => ?_, ih h.of_cons⟩
    rcases mem_insertIn.1 hx with rfl | hx
    · exact lt_of_not_lt_of_ne lt ne
    · exact List.rel_of_pairwise_cons h hx

instance : Membership String SymbolSet := ⟨fun s x => x ∈ s.toList⟩

instance (x : String) (s : SymbolSet) : Decidable (x ∈ s) :=
  inferInstanceAs (Decidable (x ∈ s.toList))

def empty : SymbolSet := ⟨[], .nil⟩

instance : EmptyCollection SymbolSet := ⟨empty⟩
instance : Inhabited SymbolSet := ⟨empty⟩

/-- The set with `x` added. -/
def insert (s : SymbolSet) (x : String) : SymbolSet :=
  ⟨insertIn x s.toList, increasing_insertIn s.increasing⟩

/-- The set with `x` left out. -/
def erase (s : SymbolSet) (x : String) : SymbolSet :=
  ⟨s.toList.filter (· ≠ x), s.increasing.filter _⟩

/-- The set of the members of a list. -/
def ofList (l : List String) : SymbolSet := l.foldl insert ∅

@[simp] theorem not_mem_empty {x : String} : ¬x ∈ (∅ : SymbolSet) := List.not_mem_nil

@[simp] theorem mem_insert {s : SymbolSet} {x y : String} : y ∈ s.insert x ↔ y = x ∨ y ∈ s :=
  mem_insertIn

@[simp] theorem mem_erase {s : SymbolSet} {x y : String} : y ∈ s.erase x ↔ y ∈ s ∧ y ≠ x := by
  show y ∈ s.toList.filter _ ↔ y ∈ s.toList ∧ y ≠ x
  simp

theorem mem_foldl_insert {x : String} {l : List String} {s : SymbolSet} :
    x ∈ l.foldl insert s ↔ x ∈ s ∨ x ∈ l := by
  induction l generalizing s with
  | nil => simp
  | cons y l ih => simp [ih]; grind

@[simp] theorem mem_ofList {x : String} {l : List String} : x ∈ ofList l ↔ x ∈ l := by
  simp [ofList, mem_foldl_insert]

/-- Two increasing lists with the same members are equal. -/
theorem eq_of_increasing {l m : List String} (hl : l.Pairwise (· < ·)) (hm : m.Pairwise (· < ·))
    (h : ∀ x, x ∈ l ↔ x ∈ m) : l = m := by
  induction l generalizing m with
  | nil =>
    cases m with
    | nil => rfl
    | cons y m => exact absurd ((h y).2 List.mem_cons_self) List.not_mem_nil
  | cons x l ih =>
    cases m with
    | nil => exact absurd ((h x).1 List.mem_cons_self) List.not_mem_nil
    | cons y m =>
      have xy : x = y := by
        rcases List.mem_cons.1 ((h x).1 List.mem_cons_self) with e | hx
        · exact e
        · rcases List.mem_cons.1 ((h y).2 List.mem_cons_self) with e | hy
          · exact e.symm
          · exact absurd (List.rel_of_pairwise_cons hm hx)
              (String.lt_asymm (List.rel_of_pairwise_cons hl hy))
      subst xy
      refine congrArg _ (ih hl.of_cons hm.of_cons fun z => ?_)
      constructor
      · intro hz
        rcases List.mem_cons.1 ((h z).1 (List.mem_cons_of_mem _ hz)) with e | hz'
        · exact absurd (List.rel_of_pairwise_cons hl (e ▸ hz)) (String.lt_irrefl _)
        · exact hz'
      · intro hz
        rcases List.mem_cons.1 ((h z).2 (List.mem_cons_of_mem _ hz)) with e | hz'
        · exact absurd (List.rel_of_pairwise_cons hm (e ▸ hz)) (String.lt_irrefl _)
        · exact hz'

/-- A set is known by its members. -/
theorem ext_mem {s t : SymbolSet} (h : ∀ x, x ∈ s ↔ x ∈ t) : s = t := by
  cases s with
  | mk l hl =>
    cases t with
    | mk m hm =>
      have := eq_of_increasing hl hm h
      subst this
      rfl

end SymbolSet

end PluginBuild
