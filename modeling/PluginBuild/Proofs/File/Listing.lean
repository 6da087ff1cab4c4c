/-
# Proofs.File.Listing -- what lies below a directory

A listing of a directory has every entry that real directories lead to, with the names that lead
there (`Node.listing`).  On a disk no two entries of a directory have one name, and no name means
anything else in a path (`Node.IsSound`).  Then the names of a listing are exactly those that
lead somewhere, and no two are the same (`Node.mem_listing_iff`, `Node.nodup_descendants`).
-/
import PluginBuild.File.Find
import PluginBuild.Proofs.File.Path
import Mathlib.Data.List.Nodup
import Mathlib.Data.List.Perm.Basic

namespace PluginBuild

set_option autoImplicit false

namespace Node

/-- Whether an entry of a directory can be called so. -/
structure IsName (name : String) : Prop extends Path.IsPart name where
  notUp : name ≠ ".."
  noNul : '\x00' ∉ name.toList
  short : name.utf8ByteSize ≤ FileSystem.maxName

instance (name : String) : Decidable (IsName name) :=
  decidable_of_iff (Path.IsPart name ∧ name ≠ ".." ∧ '\x00' ∉ name.toList ∧
      name.utf8ByteSize ≤ FileSystem.maxName)
    ⟨fun ⟨isPart, notUp, noNul, short⟩ => ⟨isPart, notUp, noNul, short⟩,
      fun h => ⟨h.toIsPart, h.notUp, h.noNul, h.short⟩⟩

mutual

/-- Whether a tree can be on a disk: the entries of each directory have names, and no two have
the same. -/
def IsSound : Node → Prop
  | .dir entries => (entries.map Prod.fst).Nodup ∧ AreSound entries
  | .file _ _ => True
  | .link _ => True

/-- Whether entries have names and are sound themselves. -/
def AreSound : List (String × Node) → Prop
  | [] => True
  | (name, node) :: rest => IsName name ∧ node.IsSound ∧ AreSound rest

end

mutual

/-- The entries below a directory, each with the names that lead there. -/
def listing : Node → List (List String × Node)
  | .dir entries => listingOf entries
  | .file _ _ => []
  | .link _ => []

/-- Some entries and all below them. -/
def listingOf : List (String × Node) → List (List String × Node)
  | [] => []
  | (name, node) :: rest =>
    ([name], node) :: node.listing.map (Prod.map (name :: ·) id) ++ listingOf rest

end

/-- What lies deeper than some entries of a directory. -/
def deeper (entries : List (String × Node)) : List (List String × Node) :=
  entries.flatMap fun e => e.2.listing.map (Prod.map (e.1 :: ·) id)

theorem areSound_iff {entries : List (String × Node)} :
    AreSound entries ↔ ∀ e ∈ entries, IsName e.1 ∧ e.2.IsSound := by
  induction entries with
  | nil => simp [AreSound]
  | cons e entries ih => rw [AreSound, List.forall_mem_cons, ih, and_assoc]

/-! ## Entries and their listings -/

theorem listingOf_eq (entries : List (String × Node)) : listingOf entries =
    entries.flatMap fun e => ([e.1], e.2) :: e.2.listing.map (Prod.map (e.1 :: ·) id) := by
  induction entries with
  | nil => rfl
  | cons e entries ih => rw [listingOf, ih, List.flatMap_cons]

/-- A listing has the entries themselves and what lies deeper. -/
theorem perm_listingOf (entries : List (String × Node)) :
    (listingOf entries).Perm (entries.map (fun e => ([e.1], e.2)) ++ deeper entries) := by
  rw [listingOf_eq]
  exact (List.map_append_flatMap_perm entries _ _).symm

theorem deeper_cons (name : String) (node : Node) (entries : List (String × Node)) :
    deeper ((name, node) :: entries) =
      node.listing.map (Prod.map (name :: ·) id) ++ deeper entries := List.flatMap_cons

mutual

theorem map_fst_listing : (node : Node) → node.listing.map Prod.fst = node.descendants
  | .dir entries => map_fst_listingOf entries
  | .file _ _ => rfl
  | .link _ => rfl

theorem map_fst_listingOf : (entries : List (String × Node)) →
    (listingOf entries).map Prod.fst = descendantsOf entries
  | [] => rfl
  | (name, node) :: entries => by
      rw [listingOf, descendantsOf, List.cons_append, List.map_cons, List.map_append, List.map_map,
        map_fst_listingOf entries, ← map_fst_listing node, List.map_map]
      rfl

end

/-! ## Names that lead somewhere -/

theorem lookup_eq_some_iff {entries : List (String × Node)}
    (distinct : (entries.map Prod.fst).Nodup) {name : String} {node : Node} :
    entries.lookup name = some node ↔ (name, node) ∈ entries := by
  induction entries with
  | nil => simp
  | cons e entries ih =>
      obtain ⟨other, node'⟩ := e
      obtain ⟨fresh, distinct⟩ := List.nodup_cons.1 distinct
      rw [List.lookup_cons, List.mem_cons, Prod.mk.injEq]
      by_cases same : name = other
      · subst same
        have absent : (name, node) ∉ entries := fun among => fresh (List.mem_map.2 ⟨_, among, rfl⟩)
        simp [absent, eq_comm]
      · simp [same, ih distinct, beq_false_of_ne same]

/-- Only a directory leads on. -/
theorem at?_cons_eq_some {node n : Node} {name : String} {names : List String} :
    node.at? (name :: names) = some n ↔
      ∃ entries m, node = .dir entries ∧ entries.lookup name = some m ∧ m.at? names = some n := by
  rw [at?, Option.bind_eq_some_iff]
  constructor
  · rintro ⟨m, entry, leads⟩
    cases node with
    | dir entries => exact ⟨entries, m, rfl, entry, leads⟩
    | file | link => cases entry
  · rintro ⟨entries, m, rfl, entry, leads⟩
    exact ⟨m, entry, leads⟩

theorem at?_append (node : Node) (names more : List String) :
    node.at? (names ++ more) = (node.at? names).bind (·.at? more) := by
  induction names generalizing node with
  | nil => rfl
  | cons name names ih =>
      rw [List.cons_append, at?, at?, Option.bind_assoc]
      congr 1
      exact funext ih

section Sound

variable {node n : Node} {names : List String}

theorem IsSound.entry {entries : List (String × Node)} (sound : (Node.dir entries).IsSound)
    {name : String} (entry : entries.lookup name = some n) : IsName name ∧ n.IsSound := by
  rw [IsSound] at sound
  exact areSound_iff.1 sound.2 _ ((lookup_eq_some_iff sound.1).1 entry)

/-- Where names lead the tree is sound, and they are names of entries. -/
theorem IsSound.at? (sound : node.IsSound) (leads : node.at? names = some n) :
    n.IsSound ∧ ∀ name ∈ names, IsName name := by
  induction names generalizing node with
  | nil =>
      cases leads
      exact ⟨sound, List.forall_mem_nil _⟩
  | cons name names ih =>
      obtain ⟨entries, m, rfl, entry, leads⟩ := at?_cons_eq_some.1 leads
      obtain ⟨isName, sound'⟩ := sound.entry entry
      obtain ⟨sound'', areNames⟩ := ih sound' leads
      exact ⟨sound'', List.forall_mem_cons.2 ⟨isName, areNames⟩⟩

theorem mem_listing_cons {entries : List (String × Node)} {name : String} :
    (name :: names, n) ∈ (Node.dir entries).listing ↔
      ∃ m, (name, m) ∈ entries ∧ (names = [] ∧ m = n ∨ (names, n) ∈ m.listing) := by
  rw [listing, (perm_listingOf entries).mem_iff, List.mem_append, deeper, List.mem_map,
    List.mem_flatMap]
  constructor
  · rintro (⟨⟨name', m⟩, among, same⟩ | ⟨⟨name', m⟩, among, below⟩)
    · cases same
      exact ⟨_, among, .inl ⟨rfl, rfl⟩⟩
    · obtain ⟨⟨names', n'⟩, deep, same⟩ := List.mem_map.1 below
      cases same
      exact ⟨m, among, .inr deep⟩
  · rintro ⟨m, among, ⟨rfl, rfl⟩ | below⟩
    · exact .inl ⟨_, among, rfl⟩
    · exact .inr ⟨_, among, List.mem_map.2 ⟨_, below, rfl⟩⟩

theorem ne_nil_of_mem_listing (among : (names, n) ∈ node.listing) : names ≠ [] := by
  cases node with
  | file | link => cases among
  | dir entries =>
      rw [listing, listingOf_eq, List.mem_flatMap] at among
      obtain ⟨e, -, here⟩ := among
      rcases List.mem_cons.1 here with same | below
      · cases same
        exact List.cons_ne_nil _ _
      · obtain ⟨e', -, same⟩ := List.mem_map.1 below
        cases same
        exact List.cons_ne_nil _ _

/-- A listing has exactly what names lead to. -/
theorem mem_listing_iff (sound : node.IsSound) :
    (names, n) ∈ node.listing ↔ names ≠ [] ∧ node.at? names = some n := by
  induction names generalizing node with
  | nil => exact iff_of_false (fun among => ne_nil_of_mem_listing among rfl) fun h => h.1 rfl
  | cons name names ih =>
      rw [at?_cons_eq_some]
      cases node with
      | file | link => simp [listing]
      | dir entries =>
          rw [mem_listing_cons]
          have distinct : (entries.map Prod.fst).Nodup := by
            rw [IsSound] at sound
            exact sound.1
          constructor
          · rintro ⟨m, among, here⟩
            have entry := (lookup_eq_some_iff distinct).2 among
            refine ⟨List.cons_ne_nil _ _, entries, m, rfl, entry, ?_⟩
            rcases here with ⟨rfl, rfl⟩ | below
            · rfl
            · exact ((ih (sound.entry entry).2).1 below).2
          · rintro ⟨-, _, m, ⟨⟩, entry, leads⟩
            refine ⟨m, (lookup_eq_some_iff distinct).1 entry, ?_⟩
            by_cases last : names = []
            · subst last
              exact .inl ⟨rfl, Option.some.inj leads⟩
            · exact .inr ((ih (sound.entry entry).2).2 ⟨last, leads⟩)

end Sound

theorem head_of_mem_descendantsOf {entries : List (String × Node)} {names : List String}
    (among : names ∈ descendantsOf entries) :
    ∃ name ∈ entries.map Prod.fst, names.head? = some name := by
  rw [← map_fst_listingOf, List.mem_map] at among
  obtain ⟨⟨names', n⟩, among, rfl⟩ := among
  have among : (names', n) ∈ (Node.dir entries).listing := among
  obtain ⟨name, rest, rfl⟩ := List.exists_cons_of_ne_nil (ne_nil_of_mem_listing among)
  obtain ⟨m, entry, -⟩ := mem_listing_cons.1 among
  exact ⟨name, List.mem_map_of_mem entry, rfl⟩

mutual

/-- Nothing is listed twice. -/
theorem nodup_descendants : (node : Node) → node.IsSound → node.descendants.Nodup
  | .dir entries, sound => by
      rw [IsSound] at sound
      exact nodup_descendantsOf entries sound.1 sound.2
  | .file _ _, _ => .nil
  | .link _, _ => .nil

theorem nodup_descendantsOf : (entries : List (String × Node)) → (entries.map Prod.fst).Nodup →
    AreSound entries → (descendantsOf entries).Nodup
  | [], _, _ => .nil
  | (name, node) :: entries, distinct, sound => by
      obtain ⟨fresh, distinct⟩ := List.nodup_cons.1 distinct
      obtain ⟨-, sound, others⟩ := sound
      rw [descendantsOf, List.cons_append, List.nodup_cons, List.mem_append, List.nodup_append]
      have below : (node.descendants.map (name :: ·)).Nodup :=
        List.Nodup.map List.cons_injective (nodup_descendants node sound)
      have apart : ∀ names ∈ descendantsOf entries, names.head? ≠ some name := by
        intro names among same
        obtain ⟨name', among', head⟩ := head_of_mem_descendantsOf among
        obtain rfl : name' = name := Option.some.inj (head.symm.trans same)
        exact fresh among'
      refine ⟨?_, below, nodup_descendantsOf entries distinct others, ?_⟩
      · rintro (among | among)
        · obtain ⟨names, deep, same⟩ := List.mem_map.1 among
          obtain rfl : names = [] := (List.cons.inj same).2
          rw [← map_fst_listing, List.mem_map] at deep
          obtain ⟨⟨_, n⟩, deep, rfl⟩ := deep
          exact ne_nil_of_mem_listing deep rfl
        · exact apart _ among rfl
      · rintro _ among names among' rfl
        obtain ⟨names, -, rfl⟩ := List.mem_map.1 among
        exact apart _ among' rfl

end

end Node

end PluginBuild
