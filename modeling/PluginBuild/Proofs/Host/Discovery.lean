/-
# Proofs.Host.Discovery -- a search finds exactly the files that can be reached

A file is reached from a directory along real directories, and may be a link that leads to a file
(`FileSystem.Reaches`).  A search that returns has found all files that are reached and have names
that match, each once, in ascending order of their absolute paths.  It returns exactly if the
operating system can say what each path leads to that the search asks about
(`FileSystem.Searchable`), and otherwise fails over one of these paths.  Only which links are
asked about differs between a runtime that follows them and one that does not
(`findFiles_exact`).
-/
import PluginBuild.Host.Discovery
import PluginBuild.Proofs.Act
import PluginBuild.Proofs.File.Find

namespace PluginBuild

set_option autoImplicit false

namespace FileSystem

variable {fs : FileSystem} {follows : Bool} {pattern : Pattern} {p q : Path}

/-- Whether a search below a directory should find a path: names lead from the directory along
real directories, the last of them matches, and there is a file or a link that leads to one. -/
def Reaches (fs : FileSystem) (pattern : Pattern) (directory q : Path) : Prop :=
  ∃ front name node, (fs.nodeAt directory).at? (front ++ [name]) = some node ∧
    pattern.matches name = true ∧
    (node.IsFile ∨ (∃ target, node = .link target) ∧
      fs.isFile (directory.below (front ++ [name])) = .ok true) ∧
    q = fs.absolute (directory.below (front ++ [name]))

/-- Whether a search asks about a path: about where it starts and, if this is a directory, about
whatever real directories lead to that it looks into or that has a name that matches. -/
def Queries (fs : FileSystem) (follows : Bool) (pattern : Pattern) (directory q : Path) : Prop :=
  q = directory ∨ fs.isDirectory directory = .ok true ∧
    ∃ names node, names ≠ [] ∧ (fs.nodeAt directory).at? names = some node ∧
      pattern.Asks follows (directory.below names) node ∧ q = directory.below names

/-- Whether whatever a search asks about can be asked about. -/
def Searchable (fs : FileSystem) (follows : Bool) (pattern : Pattern) (directory : Path) : Prop :=
  ∀ q, fs.Queries follows pattern directory q → fs.Askable q

theorem nodeAt_of_isDirectory (directory : fs.isDirectory p = .ok true) :
    ∃ entries, fs.status p = .ok (some (.dir entries)) ∧ fs.nodeAt p = .dir entries := by
  obtain ⟨entries, status⟩ := isDirectory_eq_true.1 directory
  have visible : hasNul p = false := by
    rw [Bool.eq_false_iff]
    intro nul
    rw [FileSystem.status, if_pos nul] at status
    cases status
  exact ⟨entries, status, nodeAt_of_status visible status⟩

namespace IsSound

theorem nodeAt (sound : fs.IsSound) (p : Path) : (fs.nodeAt p).IsSound := by
  rw [FileSystem.nodeAt]
  split
  · next place found => exact sound.place found
  · exact ⟨.nil, trivial⟩

theorem asksBelow_iff (sound : fs.IsSound) : pattern.AsksBelow follows p (fs.nodeAt p) q ↔
    ∃ names node, names ≠ [] ∧ (fs.nodeAt p).at? names = some node ∧
      pattern.Asks follows (p.below names) node ∧ q = p.below names := by
  rw [Pattern.AsksBelow]
  simp only [Prod.exists, Node.mem_listing_iff (sound.nodeAt p), and_assoc]

/-- A directory can be searched if it can be read and its listing be asked about. -/
theorem searchable_iff (sound : fs.IsSound) (directory : fs.isDirectory p = .ok true) :
    fs.Searchable follows pattern p ↔
      fs.Askable p ∧ fs.Answers follows pattern p (fs.nodeAt p) := by
  have queries : ∀ q, fs.Queries follows pattern p q ↔
      q = p ∨ pattern.AsksBelow follows p (fs.nodeAt p) q := by
    intro q
    rw [Queries, sound.asksBelow_iff, and_iff_right directory]
  simp only [Searchable, queries, or_imp, forall_and, forall_eq, Answers]

/-- Below a directory that can be searched, exactly the files are files, and the links that lead
to files. -/
theorem isFile_below_iff (sound : fs.IsSound) (directory : fs.isDirectory p = .ok true)
    {names : List String} {node : Node} (leads : (fs.nodeAt p).at? names = some node)
    (askable : fs.Askable (p.below names)) : fs.isFile (p.below names) = .ok true ↔
      node.IsFile ∨ (∃ target, node = .link target) ∧ fs.isFile (p.below names) = .ok true := by
  obtain ⟨entries, status, start⟩ := nodeAt_of_isDirectory directory
  have real : (∀ target, node ≠ .link target) → fs.status (p.below names) = .ok (some node) := by
    intro real
    obtain ⟨found, asked⟩ := askable
    have below := sound.status_below status (start ▸ leads) real
    split at below
    · rw [asked] at below
      cases below
    · exact below
  cases node with
  | file bytes executable =>
      exact iff_of_true (isFile_eq_true.2 ⟨bytes, executable, real nofun⟩) (.inl trivial)
  | dir entries =>
      refine iff_of_false ?_ (by rintro (⟨⟨⟩⟩ | ⟨⟨_, ⟨⟩⟩, _⟩))
      rw [isFile_eq_true, real nofun]
      exact nofun
  | link target =>
      exact ⟨fun file => .inr ⟨⟨target, rfl⟩, file⟩, fun h => h.elim False.elim And.right⟩

theorem mem_picked_iff (sound : fs.IsSound) (directory : fs.isDirectory p = .ok true)
    (searchable : fs.Searchable follows pattern p) :
    q ∈ (fs.picked pattern p (fs.nodeAt p).listing).map fs.absolute ↔ fs.Reaches pattern p q := by
  have fits : ∀ {front name node}, (fs.nodeAt p).at? (front ++ [name]) = some node →
      pattern.matches name = true → (fs.isFile (p.below (front ++ [name])) = .ok true ↔
        node.IsFile ∨ (∃ target, node = .link target) ∧
          fs.isFile (p.below (front ++ [name])) = .ok true) := by
    intro front name node leads fits
    have asks : pattern.Asks follows (p.below (front ++ [name])) node :=
      .inl (by rwa [Path.name_below])
    exact sound.isFile_below_iff directory leads
      (searchable _ (.inr ⟨directory, _, node, by simp, leads, asks, rfl⟩))
  rw [picked, List.mem_map]
  simp only [List.mem_filter, List.mem_map, Prod.exists, isFound_eq_true,
    Node.mem_listing_iff (sound.nodeAt p)]
  constructor
  · rintro ⟨_, ⟨⟨names, node, ⟨nonempty, leads⟩, rfl⟩, named, file⟩, rfl⟩
    obtain ⟨front, name, rfl⟩ : ∃ front name, names = front ++ [name] :=
      ⟨_, _, (List.dropLast_concat_getLast nonempty).symm⟩
    rw [Path.name_below] at named
    exact ⟨front, name, node, leads, named, (fits leads named).1 file, rfl⟩
  · rintro ⟨front, name, node, leads, named, file, rfl⟩
    refine ⟨_, ⟨⟨front ++ [name], node, ⟨by simp, leads⟩, rfl⟩, ?_, (fits leads named).2 file⟩, rfl⟩
    rwa [Path.name_below]

/-- What is picked from a listing is picked once, also when the paths are made absolute. -/
theorem nodup_picked (sound : fs.IsSound) (pattern : Pattern) (p : Path) :
    ((fs.picked pattern p (fs.nodeAt p).listing).map fs.absolute).Nodup := by
  have distinct : ((fs.nodeAt p).listing.map fun e => p.below e.1).Nodup := by
    have descendants := Node.nodup_descendants (fs.nodeAt p) (sound.nodeAt p)
    rw [← Node.map_fst_listing] at descendants
    have same : ((fs.nodeAt p).listing.map fun e => p.below e.1) =
        ((fs.nodeAt p).listing.map Prod.fst).map p.below := by
      rw [List.map_map]
      rfl
    rw [same]
    exact descendants.map fun _ _ => Path.below_inj.1
  refine List.Nodup.map_on ?_ (distinct.filter _)
  intro q hq q' hq' same
  obtain ⟨e, -, rfl⟩ := List.mem_map.1 (List.mem_filter.1 hq).1
  obtain ⟨e', -, rfl⟩ := List.mem_map.1 (List.mem_filter.1 hq').1
  rw [absolute_below, absolute_below, Path.below_inj] at same
  rw [same]

/-- A search below a directory returns exactly if what it asks about can be asked about, and then
it has found the files that are reached, in ascending order. -/
theorem filesBelow_eq_ok (sound : fs.IsSound) (directory : fs.isDirectory p = .ok true) :
    ((∃ found, fs.filesBelow follows p pattern = .ok found) ↔ fs.Searchable follows pattern p) ∧
      ∀ found, fs.filesBelow follows p pattern = .ok found →
        found.Pairwise (fun q q' => q.components < q'.components) ∧
          ∀ q, q ∈ found ↔ fs.Reaches pattern p q := by
  obtain ⟨entries, -, start⟩ := nodeAt_of_isDirectory directory
  have returns : (∃ found, fs.filesFrom follows pattern p (fs.nodeAt p) = .ok found) ↔
      fs.Searchable follows pattern p := by
    rw [exists_filesFrom_iff, sound.searchable_iff directory]
    exact and_congr_left' ⟨fun readable => readable entries start, fun askable _ _ => askable⟩
  have sorted : ∀ {found}, fs.filesBelow follows p pattern = .ok found → ∃ files,
      fs.filesFrom follows pattern p (fs.nodeAt p) = .ok files ∧
        found = (files.map fs.absolute).mergeSort Path.le := by
    intro found searched
    obtain ⟨files, all, same⟩ := exists_of_bind_eq_ok searched
    cases same
    exact ⟨files, all, rfl⟩
  refine ⟨?_, ?_⟩
  · rw [← returns]
    constructor
    · rintro ⟨found, searched⟩
      obtain ⟨files, all, -⟩ := sorted searched
      exact ⟨files, all⟩
    · rintro ⟨files, all⟩
      rw [filesBelow, all]
      exact ⟨_, rfl⟩
  · intro found searched
    obtain ⟨files, all, rfl⟩ := sorted searched
    have listed := (perm_filesFrom pattern p _ files all).map fs.absolute
    refine ⟨Path.increasing_mergeSort ?_ (listed.nodup_iff.2 (sound.nodup_picked pattern p)), ?_⟩
    · exact List.forall_mem_map.2 fun q _ => isAbsolute_absolute q
    · intro q
      rw [List.mem_mergeSort, listed.mem_iff,
        sound.mem_picked_iff directory (returns.1 ⟨files, all⟩)]

/-- A search below a directory fails only over something that it asks about. -/
theorem refuses_of_filesBelow (sound : fs.IsSound) (directory : fs.isDirectory p = .ok true)
    {e : File.Error} (refused : fs.filesBelow follows p pattern = .error e) :
    ∃ q, fs.Queries follows pattern p q ∧ fs.Refuses q e := by
  rw [filesBelow, bind_eq_error_iff] at refused
  rcases refused with unsearched | ⟨files, -, refused⟩
  · rcases blocks_of_filesFrom pattern p e _ unsearched with ⟨-, refuses⟩ | ⟨q, asked, refuses⟩
    · exact ⟨p, .inl rfl, refuses⟩
    · exact ⟨q, .inr ⟨directory, sound.asksBelow_iff.1 asked⟩, refuses⟩
  · cases refused

end IsSound

/-! ## Where no links are -/

/-- The files of a directory whose names match, in the order of its listing. -/
def filesListed (pattern : Pattern) (p : Path) (node : Node) : List Path :=
  (node.listing.filter fun e => pattern.matches (p.below e.1).name && decide e.2.IsFile).map
    fun e => p.below e.1

section Unlinked

variable {entries : List (String × Node)}

/-- What is listed below a directory lies there where it is no link and its path not too long. -/
theorem IsSound.status_listed (sound : fs.IsSound)
    (status : fs.status p = .ok (some (.dir entries))) {e : List String × Node}
    (listed : e ∈ (Node.dir entries).listing)
    (unlinked : ¬e.2.IsLink ∧ ¬maxPath < (p.below e.1).text.utf8ByteSize) :
    fs.status (p.below e.1) = .ok (some e.2) := by
  obtain ⟨_, status', start⟩ := nodeAt_of_isDirectory (isDirectory_eq_true.2 ⟨entries, status⟩)
  rw [status] at status'
  cases status'
  obtain ⟨-, leads⟩ := (Node.mem_listing_iff (start ▸ sound.nodeAt p)).1 listed
  have real : ∀ target, e.2 ≠ .link target := fun target link => unlinked.1 (link ▸ trivial)
  rw [sound.status_below status leads real, if_neg unlinked.2]

theorem picked_listed (isAbsolute : p.isAbsolute = true)
    (own : ∀ e ∈ (Node.dir entries).listing, fs.status (p.below e.1) = .ok (some e.2)) :
    (fs.picked pattern p (Node.dir entries).listing).map fs.absolute =
      filesListed pattern p (.dir entries) := by
  have found : ∀ e ∈ (Node.dir entries).listing, fs.isFound pattern (p.below e.1) =
      (pattern.matches (p.below e.1).name && decide e.2.IsFile) := by
    intro e listed
    rw [isFound, FileSystem.isFile, own e listed]
    cases e.2 <;> rfl
  have same : ∀ e : List String × Node, fs.absolute (p.below e.1) = p.below e.1 :=
    fun e => if_pos isAbsolute
  rw [FileSystem.picked, List.filter_map, List.map_map, filesListed]
  simp only [Function.comp_def, same]
  rw [List.filter_congr found]

/-- Where no link lies below a directory and no path is too long, a search finds the files that are
listed, whether links are followed or not. -/
theorem IsSound.filesBelow_unlinked (sound : fs.IsSound)
    (status : fs.status p = .ok (some (.dir entries))) (isAbsolute : p.isAbsolute = true)
    (unlinked : ∀ e ∈ (Node.dir entries).listing,
      ¬e.2.IsLink ∧ ¬maxPath < (p.below e.1).text.utf8ByteSize)
    (increasing : (filesListed pattern p (.dir entries)).Pairwise
      fun q q' => q.components < q'.components) :
    fs.filesBelow follows p pattern = .ok (filesListed pattern p (.dir entries)) := by
  have directory : fs.isDirectory p = .ok true := isDirectory_eq_true.2 ⟨entries, status⟩
  obtain ⟨_, status', start⟩ := nodeAt_of_isDirectory directory
  rw [status] at status'
  cases status'
  have own : ∀ e ∈ (Node.dir entries).listing, fs.status (p.below e.1) = .ok (some e.2) :=
    fun e listed => sound.status_listed status listed (unlinked e listed)
  have searchable : fs.Searchable follows pattern p := by
    refine (sound.searchable_iff directory).2 ⟨⟨_, status⟩, ?_⟩
    rw [start]
    rintro q ⟨e, listed, -, rfl⟩
    exact ⟨_, own e listed⟩
  obtain ⟨found, searched⟩ := (sound.filesBelow_eq_ok directory).1.2 searchable
  obtain ⟨increasing', members⟩ := (sound.filesBelow_eq_ok directory).2 found searched
  have apart : ∀ {q q' : Path}, q.components < q'.components → q ≠ q' := by
    rintro q _ before rfl
    exact List.lt_irrefl _ before
  have perm : found.Perm (filesListed pattern p (.dir entries)) := by
    refine (List.perm_ext_iff_of_nodup (increasing'.imp apart) (increasing.imp apart)).2 fun q => ?_
    rw [members q, ← sound.mem_picked_iff directory searchable, start,
      picked_listed isAbsolute own]
  have antisymm : ∀ q q' : Path, q ∈ found → q' ∈ filesListed pattern p (.dir entries) →
      q.components < q'.components → q'.components < q.components → q = q' :=
    fun q q' _ _ before after => absurd (List.lt_trans before after) (List.lt_irrefl _)
  rw [searched, perm.eq_of_pairwise antisymm increasing' increasing]

end Unlinked

end FileSystem

namespace Discovery

variable {fs : FileSystem} {follows : Bool} {pattern : Pattern} {directory : Path}

/-! ## Searching directories that may be missing -/

theorem search_of_absent (follows : Bool) (pattern : Pattern)
    (absent : fs.isDirectory directory = .ok false) :
    (search follows fs pattern directory ()).result = .ok [] := by
  simp [search, absent]

theorem search_of_present (follows : Bool) (pattern : Pattern)
    (present : fs.isDirectory directory = .ok true) :
    (search follows fs pattern directory ()).result = fs.filesBelow follows directory pattern := by
  simp [search, present]

theorem search_of_unasked (follows : Bool) (pattern : Pattern) {e : File.Error}
    (unasked : fs.isDirectory directory = .error e) :
    (search follows fs pattern directory ()).result = .error e := by
  simp [search, unasked]

/-- A search returns exactly if whatever it asks about can be asked about. -/
theorem exists_search_iff (sound : fs.IsSound) (follows : Bool) (pattern : Pattern)
    (directory : Path) : (∃ found, (search follows fs pattern directory ()).result = .ok found) ↔
      fs.Searchable follows pattern directory := by
  cases looked : fs.isDirectory directory with
  | error e =>
      rw [search_of_unasked follows pattern looked]
      refine iff_of_false nofun fun searchable => ?_
      obtain ⟨b, answer⟩ := (searchable directory (.inl rfl)).isDirectory
      rw [looked] at answer
      cases answer
  | ok present =>
      cases present with
      | false =>
          rw [search_of_absent follows pattern looked]
          refine iff_of_true ⟨[], rfl⟩ ?_
          rintro q (rfl | ⟨present, -⟩)
          · obtain ⟨node, status, -⟩ := exists_of_map_eq_ok looked
            exact ⟨node, status⟩
          · rw [looked] at present
            cases present
      | true =>
          rw [search_of_present follows pattern looked]
          exact (sound.filesBelow_eq_ok looked).1

/-- A search that fails does so over something that it asks about. -/
theorem refuses_of_search (sound : fs.IsSound) {e : File.Error}
    (refused : (search follows fs pattern directory ()).result = .error e) :
    ∃ q, fs.Queries follows pattern directory q ∧ fs.Refuses q e := by
  cases looked : fs.isDirectory directory with
  | error e' =>
      rw [search_of_unasked follows pattern looked] at refused
      cases refused
      exact ⟨directory, .inl rfl, _, map_eq_error_iff.1 looked, rfl⟩
  | ok present =>
      cases present with
      | false =>
          rw [search_of_absent follows pattern looked] at refused
          cases refused
      | true =>
          rw [search_of_present follows pattern looked] at refused
          exact sound.refuses_of_filesBelow looked refused

/-- What a search returns are the files that are reached from a directory, in ascending order. -/
theorem of_search (sound : fs.IsSound) {found : List Path}
    (searched : (search follows fs pattern directory ()).result = .ok found) :
    found.Pairwise (fun q q' => q.components < q'.components) ∧ ∀ q, q ∈ found ↔
      fs.isDirectory directory = .ok true ∧ fs.Reaches pattern directory q := by
  cases looked : fs.isDirectory directory with
  | error e =>
      rw [search_of_unasked follows pattern looked] at searched
      cases searched
  | ok present =>
      cases present with
      | false =>
          rw [search_of_absent follows pattern looked] at searched
          cases searched
          exact ⟨.nil, fun q => iff_of_false List.not_mem_nil nofun⟩
      | true =>
          rw [search_of_present follows pattern looked] at searched
          obtain ⟨increasing, members⟩ := (sound.filesBelow_eq_ok looked).2 found searched
          exact ⟨increasing, fun q => (members q).trans (and_iff_right rfl).symm⟩

/-- Where no links are, a search finds the files that are listed and have names that match, and
none where nothing is. -/
theorem search_unlinked (sound : fs.IsSound) {node : Option Node} {found : List Path}
    (status : fs.status directory = .ok node) (isAbsolute : directory.isAbsolute = true)
    (unlinked : ∀ e ∈ (node.getD (.dir [])).listing,
      ¬e.2.IsLink ∧ ¬FileSystem.maxPath < (directory.below e.1).text.utf8ByteSize)
    (listed : FileSystem.filesListed pattern directory (node.getD (.dir [])) = found)
    (increasing : found.Pairwise fun q q' => q.components < q'.components) :
    (search follows fs pattern directory ()).result = .ok found := by
  subst listed
  have absent (other : fs.isDirectory directory = .ok false) (nothing : ∀ n, node = some n →
      n.listing = []) : (search follows fs pattern directory ()).result =
        .ok (FileSystem.filesListed pattern directory (node.getD (.dir []))) := by
    have empty : (node.getD (.dir [])).listing = [] := by
      cases node with
      | none => rfl
      | some n => exact nothing n rfl
    rw [search_of_absent follows pattern other, FileSystem.filesListed, empty]
    rfl
  match node, status with
  | none, status => exact absent (congrArg _ status) nofun
  | some (.file bytes executable), status =>
      exact absent (congrArg _ status) fun n same => by cases same; rfl
  | some (.link target), status =>
      exact absent (congrArg _ status) fun n same => by cases same; rfl
  | some (.dir entries), status =>
      rw [search_of_present follows pattern (FileSystem.isDirectory_eq_true.2 ⟨entries, status⟩)]
      exact sound.filesBelow_unlinked status isAbsolute unlinked increasing

/-- A search returns exactly if whatever it asks about can be asked about, and otherwise fails over
one of these paths, whether links are followed or not.  What it returns are the files that are
reached from the directory, all of them and each once, in ascending order. -/
theorem findFiles_exact (sound : fs.IsSound) (follows : Bool) (pattern : Pattern)
    (directory : Path) :
    ((∃ found, (search follows fs pattern directory ()).result = .ok found) ↔
        fs.Searchable follows pattern directory) ∧
      (∀ e, (search follows fs pattern directory ()).result = .error e →
        ∃ q, fs.Queries follows pattern directory q ∧ fs.Refuses q e) ∧
      ∀ found, (search follows fs pattern directory ()).result = .ok found →
        found.Pairwise (fun q q' => q.components < q'.components) ∧
          (∀ q, q ∈ found ↔
            fs.isDirectory directory = .ok true ∧ fs.Reaches pattern directory q) ∧
          (fs.isDirectory directory = .ok false → found = []) := by
  refine ⟨exists_search_iff sound follows pattern directory,
    fun e refused => refuses_of_search sound refused, fun found searched => ?_⟩
  obtain ⟨increasing, members⟩ := of_search sound searched
  refine ⟨increasing, members, fun absent => ?_⟩
  rw [search_of_absent follows pattern absent] at searched
  cases searched
  rfl

/-- A directory with a file, a link to it and a link to the directory itself. -/
def linked : FileSystem where
  root := .dir [("l.py", .link "a.py"), ("a.py", .file [] false), ("loop", .link ".")]
  current := []

theorem isSound_linked : linked.IsSound where
  root := by
    simp only [linked, Node.IsSound, Node.AreSound]
    decide +kernel
  current := ⟨_, rfl⟩

theorem nodeAt_root (root : Node) : FileSystem.nodeAt ⟨root, []⟩ ⟨.single, []⟩ = root := by
  have short : ¬FileSystem.maxPath < (Path.mk .single []).text.utf8ByteSize := by decide +kernel
  rw [FileSystem.nodeAt, FileSystem.find, if_neg short]
  simp [Path.isAbsolute, FileSystem.walk]

theorem isDirectory_root (entries : List (String × Node)) :
    FileSystem.isDirectory ⟨.dir entries, []⟩ ⟨.single, []⟩ = .ok true := by
  have short : ¬FileSystem.maxPath < (Path.mk .single []).text.utf8ByteSize := by decide +kernel
  have visible : FileSystem.hasNul ⟨.single, []⟩ = false := by decide +kernel
  rw [FileSystem.isDirectory, FileSystem.status, visible, FileSystem.find, if_neg short]
  simp [Path.isAbsolute, FileSystem.walk, Functor.map, Except.map]

theorem status_linked : linked.status ⟨.single, ["l.py"]⟩ = .ok (some (.file [] false)) ∧
    linked.status ⟨.single, ["a.py"]⟩ = .ok (some (.file [] false)) ∧
    linked.status ⟨.single, ["loop"]⟩ = .ok (some linked.root) := by
  have short : ∀ name ∈ ["l.py", "a.py", "loop"],
      ¬FileSystem.maxName < name.utf8ByteSize ∧
      ¬FileSystem.maxPath < (Path.mk .single [name]).text.utf8ByteSize ∧
        FileSystem.hasNul ⟨.single, [name]⟩ = false := by decide +kernel
  have targets : Text.splitAt (· == '/') "a.py" = ["a.py"] ∧
      Text.splitAt (· == '/') "." = ["."] := by decide +kernel
  simp only [List.forall_mem_cons] at short
  simp [FileSystem.status, FileSystem.find, short, Path.isAbsolute, FileSystem.walk, linked,
    Node.entry?, List.lookup_cons, FileSystem.maxLinks, targets]

theorem searchable_linked (follows : Bool) :
    linked.Searchable follows sources ⟨.single, []⟩ := by
  obtain ⟨toFile, file, toSelf⟩ := status_linked
  have present : linked.isDirectory ⟨.single, []⟩ = .ok true := isDirectory_root _
  obtain ⟨_, status⟩ := FileSystem.isDirectory_eq_true.1 present
  refine (isSound_linked.searchable_iff present).2 ⟨⟨_, status⟩, ?_⟩
  rw [show linked.nodeAt ⟨.single, []⟩ = linked.root from nodeAt_root _]
  rintro q ⟨e, listed, -, rfl⟩
  simp only [linked, Node.listing, Node.listingOf, List.map_nil, List.append_nil,
    List.cons_append, List.nil_append, List.mem_cons, List.not_mem_nil, or_false] at listed
  obtain rfl | rfl | rfl := listed
  · exact ⟨_, toFile⟩
  · exact ⟨_, file⟩
  · exact ⟨_, toSelf⟩

/-- Below it the file and the link to it are found, and the link to the directory is not
entered. -/
theorem findFiles_exact_linked : ∃ found,
    (search true linked sources ⟨.single, []⟩ ()).result = .ok found ∧
      found.Pairwise (fun q q' => q.components < q'.components) ∧
      ⟨.single, ["a.py"]⟩ ∈ found ∧ ⟨.single, ["l.py"]⟩ ∈ found ∧
      ⟨.single, ["loop", "a.py"]⟩ ∉ found := by
  have present : linked.isDirectory ⟨.single, []⟩ = .ok true := isDirectory_root _
  have start : linked.nodeAt ⟨.single, []⟩ = linked.root := nodeAt_root _
  obtain ⟨returns, -, members⟩ := findFiles_exact isSound_linked true sources ⟨.single, []⟩
  obtain ⟨found, searched⟩ := returns.2 (searchable_linked true)
  obtain ⟨increasing, members, -⟩ := members found searched
  refine ⟨found, searched, increasing, ?_, ?_, ?_⟩
  · refine (members _).2 ⟨present, [], "a.py", .file [] false, ?_, by decide, .inl trivial, rfl⟩
    rw [start]
    rfl
  · have file := FileSystem.isFile_eq_true.2 ⟨_, _, status_linked.1⟩
    refine (members _).2
      ⟨present, [], "l.py", .link "a.py", ?_, by decide, .inr ⟨⟨_, rfl⟩, file⟩, rfl⟩
    rw [start]
    rfl
  · intro among
    obtain ⟨-, front, name, node, leads, -, -, same⟩ := (members _).1 among
    rw [FileSystem.absolute_below] at same
    have names : ["loop", "a.py"] = front ++ [name] := congrArg Path.parts same
    rw [← names, start] at leads
    cases leads

/-- A directory with a file and a link to a name that is too long. -/
def clogged : FileSystem where
  root := .dir [("a.py", .file [] false), ("b.py", .link (String.ofList (.replicate 256 'n')))]
  current := []

theorem status_clogged : clogged.status ⟨.single, ["a.py"]⟩ = .ok (some (.file [] false)) ∧
    clogged.status ⟨.single, ["b.py"]⟩ = .error ⟨.nameTooLong, "/b.py"⟩ := by
  have short : ∀ name ∈ ["a.py", "b.py"], ¬FileSystem.maxName < name.utf8ByteSize ∧
      ¬FileSystem.maxPath < (Path.mk .single [name]).text.utf8ByteSize ∧
        FileSystem.hasNul ⟨.single, [name]⟩ = false := by decide +kernel
  have whole : ∀ c ∈ List.replicate 256 'n', (c == '/') = false := by
    intro c among
    rw [List.eq_of_mem_replicate among]
    rfl
  have target : Text.splitAt (· == '/') (String.ofList (.replicate 256 'n')) =
      [String.ofList (.replicate 256 'n')] := by
    rw [Text.splitAt, String.toList_ofList, Text.cut_of_whole whole, List.map_singleton]
  have long : FileSystem.maxName < (String.ofList (.replicate 256 'n')).utf8ByteSize ∧
      ¬(String.ofList (.replicate 256 'n') = "" ∨ String.ofList (.replicate 256 'n') = ".") ∧
      String.ofList (.replicate 256 'n') ≠ ".." := by decide +kernel
  have text : (Path.mk .single ["b.py"]).text = "/b.py" := by decide +kernel
  simp only [List.forall_mem_cons] at short
  -- the name is a variable from here on, so that nothing looks into it
  rw [clogged]
  generalize String.ofList (.replicate 256 'n') = name at target long
  simp [FileSystem.status, FileSystem.find, short, Path.isAbsolute, FileSystem.walk,
    Node.entry?, List.lookup_cons, FileSystem.maxLinks, target, long, text,
    File.Cause.meansNothing]

/-- The file in it is reached, and yet no search finds it: each refuses over the link, whose name
matches. -/
theorem findFiles_exact_clogged : clogged.IsSound ∧
    clogged.Reaches sources ⟨.single, []⟩ ⟨.single, ["a.py"]⟩ ∧
      (search true clogged sources ⟨.single, []⟩ ()).result = .error ⟨.nameTooLong, "/b.py"⟩ ∧
      (search false clogged sources ⟨.single, []⟩ ()).result =
        .error ⟨.nameTooLong, "/b.py"⟩ := by
  have present : clogged.isDirectory ⟨.single, []⟩ = .ok true := isDirectory_root _
  have start : clogged.nodeAt ⟨.single, []⟩ = clogged.root := nodeAt_root _
  obtain ⟨_, status⟩ := FileSystem.isDirectory_eq_true.1 present
  obtain ⟨file, refused⟩ := status_clogged
  have asked : clogged.isFile ⟨.single, ["a.py"]⟩ = .ok true :=
    FileSystem.isFile_eq_true.2 ⟨_, _, file⟩
  have unasked := FileSystem.isFile_eq_error.2 refused
  have named : sources.matches "a.py" = true ∧ sources.matches "b.py" = true := by decide
  have refuses : ∀ follows, (search follows clogged sources ⟨.single, []⟩ ()).result =
      .error ⟨.nameTooLong, "/b.py"⟩ := by
    intro follows
    rw [search_of_present follows sources present, FileSystem.filesBelow, start, clogged,
      FileSystem.filesFrom, ← clogged, status]
    simp only [FileSystem.filesAmong, List.filter_cons, List.filter_nil, named, if_true,
      List.map_cons, List.map_nil, Path.entry, List.nil_append]
    simp only [List.filterM, List.filterAuxM, asked, unasked]
    rfl
  refine ⟨⟨?_, _, rfl⟩, ⟨[], "a.py", .file [] false, ?_, by decide, .inl trivial, rfl⟩,
    refuses true, refuses false⟩
  · simp only [clogged, Node.IsSound, Node.AreSound]
    decide +kernel
  · rw [start]
    rfl

end Discovery

end PluginBuild
