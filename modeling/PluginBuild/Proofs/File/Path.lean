/-
# Proofs.File.Path -- how paths are written and compared

Reading a path drops separators and parts that mean nothing, and no other character
(`mem_text_ofString`).  What is left are parts that can stand in a path (`IsNormal`), and a path
of such parts is read back from its text (`ofString_text`), so no two of them are written alike.

Paths are compared by their components, and lists of components by the first that differs
(`le_iff`); absolute paths that are sorted and distinct increase (`increasing_mergeSort`).
-/
import PluginBuild.File.Path
import PluginBuild.Proofs.Text.Split

namespace PluginBuild.Path

set_option autoImplicit false

open PluginBuild.Text

variable {p q : Path}

/-- The path of what names lead to from `p`. -/
def below (p : Path) (names : List String) : Path := ⟨p.root, p.parts ++ names⟩

theorem below_append (p : Path) (names more : List String) :
    p.below (names ++ more) = (p.below names).below more := by
  rw [below, below, below, List.append_assoc]

/-- The last of some names is what the path is called. -/
theorem name_below (p : Path) (names : List String) (name : String) :
    (p.below (names ++ [name])).name = name := by
  rw [Path.name, below, ← List.append_assoc]
  exact List.getLastD_concat ..

theorem below_inj {names more : List String} : p.below names = p.below more ↔ names = more := by
  simp [below]

/-! ## The characters of a path -/

theorem mem_root_text {c : Char} (other : c ≠ '/') (r : Root) : c ∉ r.text.toList := by
  cases r with
  | none => simp [Root.text]
  | single => simpa [Root.text] using other
  | double => simpa [Root.text] using other

theorem root_text_injective {r r' : Root} (same : r.text = r'.text) : r = r' := by
  cases r <;> cases r' <;> first | rfl | exact absurd same (by decide)

/-- The text of a path has the characters of its parts, and those that have a meaning in
paths. -/
theorem mem_text {c : Char} (noSlash : c ≠ '/') (noPoint : c ≠ '.') (p : Path) :
    c ∈ p.text.toList ↔ ∃ part ∈ p.parts, c ∈ part.toList := by
  rw [text]
  split
  · next nothing =>
      rw [nothing.2]
      simpa using noPoint
  · rw [String.toList_append, List.mem_append, String.toList_intercalate,
      mem_intercalate (by simpa using noSlash)]
    constructor
    · rintro (inRoot | ⟨chars, hchars, hc⟩)
      · exact absurd inRoot (mem_root_text noSlash _)
      · obtain ⟨part, hpart, rfl⟩ := List.mem_map.1 hchars
        exact ⟨part, hpart, hc⟩
    · rintro ⟨part, hpart, hc⟩
      exact .inr ⟨part.toList, List.mem_map_of_mem hpart, hc⟩

/-- A character without a meaning in paths is in a path exactly if it is in a text that
writes it. -/
theorem mem_text_ofString {c : Char} (noSlash : c ≠ '/') (noPoint : c ≠ '.') (s : String) :
    c ∈ (ofString s).text.toList ↔ c ∈ s.toList := by
  have among : c ∈ s.toList ↔ ∃ piece ∈ cut (· == '/') s.toList, c ∈ piece := by
    rw [← List.mem_flatten, flatten_cut, List.mem_filter]
    simp [noSlash]
  rw [mem_text noSlash noPoint, among]
  constructor
  · rintro ⟨part, hpart, hc⟩
    obtain ⟨hpart, -⟩ := List.mem_filter.1 hpart
    obtain ⟨piece, hpiece, rfl⟩ := List.mem_map.1 hpart
    exact ⟨piece, hpiece, by rwa [String.toList_ofList] at hc⟩
  · rintro ⟨piece, hpiece, hc⟩
    have hc' : c ∈ (String.ofList piece).toList := by rwa [String.toList_ofList]
    refine ⟨String.ofList piece, List.mem_filter.2 ⟨List.mem_map_of_mem hpiece, ?_⟩, hc'⟩
    -- The two parts that are dropped do not have the character.
    have notEmpty : String.ofList piece ≠ "" := by
      intro empty
      rw [empty] at hc'
      exact absurd hc' List.not_mem_nil
    have notPoint : String.ofList piece ≠ "." := by
      intro point
      rw [point] at hc'
      exact noPoint (List.mem_singleton.1 hc')
    simp [notEmpty, notPoint]

/-! ## Reading what is written -/

/-- Whether a text can stand between separators and mean something. -/
structure IsPart (part : String) : Prop where
  notEmpty : part ≠ ""
  notPoint : part ≠ "."
  noSlash : '/' ∉ part.toList

instance (part : String) : Decidable (IsPart part) :=
  decidable_of_iff (part ≠ "" ∧ part ≠ "." ∧ '/' ∉ part.toList)
    ⟨fun ⟨notEmpty, notPoint, noSlash⟩ => ⟨notEmpty, notPoint, noSlash⟩,
      fun h => ⟨h.notEmpty, h.notPoint, h.noSlash⟩⟩

/-- Whether a path is in normal form. -/
def IsNormal (p : Path) : Prop := ∀ part ∈ p.parts, IsPart part

theorem IsNormal.entry (normal : p.IsNormal) {name : String} (isPart : IsPart name) :
    (p.entry name).IsNormal := by
  intro part among
  rcases List.mem_append.1 among with inPath | last
  · exact normal part inPath
  · exact List.mem_singleton.1 last ▸ isPart

theorem isNormal_ofString (s : String) : (ofString s).IsNormal := by
  intro part hpart
  obtain ⟨among, means⟩ := List.mem_filter.1 hpart
  obtain ⟨piece, hpiece, rfl⟩ := List.mem_map.1 among
  simp only [Bool.and_eq_true, bne_iff_ne] at means
  refine ⟨means.1, means.2, ?_⟩
  rw [String.toList_ofList]
  intro slash
  have separates := not_sep_of_mem_cut hpiece '/' slash
  exact Bool.noConfusion separates

theorem IsPart.whole {part : String} (h : IsPart part) :
    ∀ c ∈ part.toList, (c == '/') = false := by
  intro c hc
  refine beq_false_of_ne ?_
  rintro rfl
  exact h.noSlash hc

/-- The parts of a path as they are written behind its root. -/
def body (p : Path) : List Char := ['/'].intercalate (p.parts.map String.toList)

theorem toList_text (p : Path) :
    p.text.toList =
      if p.root = .none ∧ p.parts = [] then ['.'] else p.root.text.toList ++ p.body := by
  rw [text]
  split
  · rfl
  · rw [String.toList_append, String.toList_intercalate]
    rfl

theorem takeWhile_body (h : p.IsNormal) : p.body.takeWhile (· == '/') = [] := by
  obtain ⟨root, parts⟩ := p
  cases parts with
  | nil => rfl
  | cons part parts =>
      have isPart := h part List.mem_cons_self
      obtain ⟨c, cs, starts⟩ : ∃ c cs, part.toList = c :: cs :=
        List.exists_cons_of_ne_nil (by simpa using isPart.notEmpty)
      have other : (c == '/') = false := isPart.whole c (starts ▸ List.mem_cons_self)
      obtain ⟨cs', body⟩ : ∃ cs', body ⟨root, part :: parts⟩ = c :: cs' := by
        cases parts with
        | nil =>
            refine ⟨cs, ?_⟩
            rw [Path.body, List.map_singleton, List.intercalate_singleton, starts]
        | cons next parts =>
            rw [Path.body, List.map_cons, List.map_cons, List.intercalate_cons_cons, starts]
            exact ⟨_, rfl⟩
      rw [body, List.takeWhile_cons, other, if_neg Bool.false_ne_true]

theorem ofText_text (h : p.IsNormal) : Root.ofText (p.root.text.toList ++ p.body) = p.root := by
  have slashes : ∀ c ∈ p.root.text.toList, (c == '/') = true := by
    cases p.root <;> simp [Root.text]
  rw [Root.ofText, List.takeWhile_append_of_pos slashes, takeWhile_body h, List.append_nil]
  cases p.root <;> rfl

/-- The pieces that mean nothing are dropped. -/
def meaningful (pieces : List (List Char)) : List String :=
  (pieces.map String.ofList).filter fun part => part != "" && part != "."

theorem meaningful_body (h : p.IsNormal) : meaningful (cut (· == '/') p.body) = p.parts := by
  obtain ⟨root, parts⟩ := p
  by_cases rootOnly : parts = []
  · subst rootOnly
    rfl
  · have whole : ∀ piece ∈ parts.map String.toList, ∀ c ∈ piece, (c == '/') = false :=
      List.forall_mem_map.2 fun part hpart => (h part hpart).whole
    have nonempty : parts.map String.toList ≠ [] := by simpa using rootOnly
    have means : ∀ part ∈ parts, (part != "" && part != ".") = true := by
      intro part hpart
      simp [(h part hpart).notEmpty, (h part hpart).notPoint]
    have read : (String.ofList ∘ String.toList) = id := funext fun s => String.ofList_toList
    rw [body, cut_intercalate rfl nonempty whole, meaningful, List.map_map, read, List.map_id,
      List.filter_eq_self.2 means]

theorem meaningful_text (h : p.IsNormal) :
    meaningful (cut (· == '/') (p.root.text.toList ++ p.body)) = p.parts := by
  rw [← meaningful_body h]
  cases p.root <;> rfl

/-- A path in normal form is read back from its text. -/
theorem ofString_text (h : p.IsNormal) : ofString p.text = p := by
  have read : ofString p.text =
      ⟨.ofText p.text.toList, meaningful (cut (· == '/') p.text.toList)⟩ := rfl
  rw [read, toList_text]
  split
  · next nothing =>
    obtain ⟨root, parts⟩ := p
    obtain ⟨rfl, rfl⟩ := nothing
    decide
  · rw [ofText_text h, meaningful_text h]

/-- No two paths in normal form are written alike. -/
theorem text_inj (hp : p.IsNormal) (hq : q.IsNormal) : p.text = q.text ↔ p = q := by
  constructor
  · intro same
    rw [← ofString_text hp, same, ofString_text hq]
  · exact congrArg text

/-! ## The order of paths -/

theorem partsLe_iff {as bs : List String} : partsLe as bs = true ↔ as < bs ∨ as = bs := by
  induction as generalizing bs with
  | nil =>
      cases bs with
      | nil => exact iff_of_true rfl (.inr rfl)
      | cons b bs => exact iff_of_true rfl (.inl (List.nil_lt_cons b bs))
  | cons a as ih =>
      cases bs with
      | nil => exact iff_of_false nofun (by simp)
      | cons b bs =>
          rw [partsLe, List.cons_lt_cons_iff, List.cons.injEq]
          by_cases same : a = b
          · subst same
            rw [if_pos rfl, ih]
            simp only [String.lt_irrefl, true_and, false_or]
          · simp [same]

/-- A path comes before another exactly if its components do, compared one by one. -/
theorem le_iff : p.le q = true ↔ p.components < q.components ∨ p.components = q.components :=
  partsLe_iff

theorem le_trans (p q r : Path) (pq : p.le q = true) (qr : q.le r = true) : p.le r = true := by
  rw [le_iff] at pq qr ⊢
  rcases pq with less | same
  · rcases qr with less' | same'
    · exact .inl (List.lt_trans less less')
    · exact .inl (same' ▸ less)
  · rwa [same]

theorem partsLe_total (as bs : List String) : (partsLe as bs || partsLe bs as) = true := by
  induction as generalizing bs with
  | nil => simp [partsLe]
  | cons a as ih =>
      cases bs with
      | nil => simp [partsLe]
      | cons b bs =>
          by_cases same : a = b
          · subst same
            simpa [partsLe] using ih bs
          · have apart : a < b ∨ b < a := by
              rcases String.le_total a b with le | le
              · exact .inl (String.not_le.1 fun le' => same (String.le_antisymm le le'))
              · exact .inr (String.not_le.1 fun le' => same (String.le_antisymm le' le))
            simpa [partsLe, same, Ne.symm same] using apart

theorem le_total (p q : Path) : (p.le q || q.le p) = true := partsLe_total _ _

theorem components_inj (hp : p.isAbsolute = true) (hq : q.isAbsolute = true) :
    p.components = q.components ↔ p = q := by
  constructor
  · intro same
    obtain ⟨root, pieces⟩ := p
    obtain ⟨root', parts'⟩ := q
    rw [components, components, if_pos hp, if_pos hq] at same
    obtain ⟨roots, parts⟩ := List.cons.inj same
    obtain rfl : root = root' := root_text_injective roots
    obtain rfl : pieces = parts' := parts
    rfl
  · exact congrArg components

/-- Absolute paths that are sorted and distinct increase. -/
theorem increasing_mergeSort {ps : List Path} (absolute : ∀ p ∈ ps, p.isAbsolute = true)
    (distinct : ps.Nodup) :
    (ps.mergeSort le).Pairwise fun p q => p.components < q.components := by
  have sorted : (ps.mergeSort le).Pairwise fun p q => p.le q = true :=
    List.pairwise_mergeSort le_trans le_total ps
  have distinct' : (ps.mergeSort le).Nodup := (List.mergeSort_perm ps le).nodup_iff.2 distinct
  refine (sorted.and distinct').imp_of_mem fun {p q} hp hq ⟨before, apart⟩ => ?_
  have absolute' : ∀ p ∈ ps.mergeSort le, p.isAbsolute = true :=
    fun p hp => absolute p (List.mem_mergeSort.1 hp)
  refine (le_iff.1 before).resolve_right fun same => apart ?_
  exact (components_inj (absolute' p hp) (absolute' q hq)).1 same

end PluginBuild.Path
