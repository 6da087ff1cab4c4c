/-
# Proofs.File.Find -- what a search asks about and what it finds

A search goes through the listing of its start.  Of what is listed it asks about whatever has a
name that matches, about every directory, and about every link where links are followed
(`Pattern.Asks`).  It succeeds exactly if each of them can be asked about
(`FileSystem.exists_filesFrom_iff`), and else fails over one of them
(`FileSystem.blocks_of_filesFrom`).  Where it succeeds it has found what is listed, has a name that
matches and leads to a file (`FileSystem.perm_filesFrom`).
-/
import PluginBuild.Proofs.File.Walk

namespace PluginBuild

set_option autoImplicit false

/-- Whether a node is a file, and neither a directory nor a link. -/
def Node.IsFile : Node → Prop
  | .file _ _ => True
  | .dir _ => False
  | .link _ => False

instance : DecidablePred Node.IsFile
  | .file _ _ => .isTrue trivial
  | .dir _ => .isFalse id
  | .link _ => .isFalse id

def Node.IsLink : Node → Prop
  | .link _ => True
  | .file _ _ => False
  | .dir _ => False

instance : DecidablePred Node.IsLink
  | .link _ => .isTrue trivial
  | .file _ _ => .isFalse id
  | .dir _ => .isFalse id

/-- Whether a search looks into a node whatever it is called: into a directory, and into a link
where links are followed. -/
def Node.IsOpened (follows : Bool) : Node → Prop
  | .file _ _ => False
  | .dir _ => True
  | .link _ => follows = true

namespace Pattern

/-- Whether a search asks about a path with a node. -/
def Asks (follows : Bool) (pattern : Pattern) (q : Path) (node : Node) : Prop :=
  pattern.matches q.name = true ∨ node.IsOpened follows

/-- Whether a search from a path with a node asks about a path below. -/
def AsksBelow (follows : Bool) (pattern : Pattern) (p : Path) (node : Node) (q : Path) : Prop :=
  ∃ e ∈ node.listing, pattern.Asks follows (p.below e.1) e.2 ∧ q = p.below e.1

/-- From a directory a search asks about the entries and about what lies below them. -/
theorem asksBelow_dir {follows : Bool} {pattern : Pattern} {p q : Path}
    {entries : List (String × Node)} : pattern.AsksBelow follows p (.dir entries) q ↔
      ∃ e ∈ entries, pattern.Asks follows (p.entry e.1) e.2 ∧ q = p.entry e.1 ∨
        pattern.AsksBelow follows (p.entry e.1) e.2 q := by
  have deeper : ∀ name names, p.below (name :: names) = (p.entry name).below names :=
    fun name => p.below_append [name]
  constructor
  · rintro ⟨⟨names, node⟩, listed, asks, rfl⟩
    obtain ⟨name, names, rfl⟩ := List.exists_cons_of_ne_nil (Node.ne_nil_of_mem_listing listed)
    obtain ⟨m, among, ⟨rfl, rfl⟩ | below⟩ := Node.mem_listing_cons.1 listed
    · exact ⟨_, among, .inl ⟨asks, rfl⟩⟩
    · exact ⟨_, among, .inr ⟨_, below, deeper name names ▸ asks, deeper name names⟩⟩
  · rintro ⟨⟨name, m⟩, among, ⟨asks, rfl⟩ | ⟨⟨names, node⟩, below, asks, rfl⟩⟩
    · exact ⟨([name], m), Node.mem_listing_cons.2 ⟨m, among, .inl ⟨rfl, rfl⟩⟩, asks, rfl⟩
    · have listed := Node.mem_listing_cons.2 ⟨m, among, .inr below⟩
      have same := (deeper name names).symm
      exact ⟨(name :: names, node), listed, same ▸ asks, same⟩

end Pattern

namespace FileSystem

variable {fs : FileSystem}

/-- Whether the operating system can say what a path leads to. -/
def Askable (fs : FileSystem) (p : Path) : Prop := ∃ node, fs.status p = .ok node

theorem Askable.isFile {p : Path} (h : fs.Askable p) : ∃ b, fs.isFile p = .ok b := by
  obtain ⟨node, status⟩ := h
  rw [FileSystem.isFile, status]
  exact ⟨_, rfl⟩

theorem Askable.isDirectory {p : Path} (h : fs.Askable p) : ∃ b, fs.isDirectory p = .ok b := by
  obtain ⟨node, status⟩ := h
  rw [FileSystem.isDirectory, status]
  exact ⟨_, rfl⟩

theorem Askable.exists {p : Path} (h : fs.Askable p) : ∃ b, fs.exists? p = .ok b := by
  obtain ⟨node, status⟩ := h
  rw [FileSystem.exists?, status]
  exact ⟨_, rfl⟩

/-- What a search starts from is what the operating system says is there. -/
theorem nodeAt_of_status {p : Path} {node : Option Node} (visible : hasNul p = false)
    (status : fs.status p = .ok node) : fs.nodeAt p = node.getD (.dir []) := by
  rw [eq_find_of_status (Bool.eq_false_iff.1 visible) status, nodeAt]
  cases fs.find p true <;> rfl

/-! ## What is asked -/

variable {follows : Bool} {pattern : Pattern} {p : Path}

/-- Whether a search can ask about all that it asks about below a path with a node. -/
def Answers (fs : FileSystem) (follows : Bool) (pattern : Pattern) (p : Path) (node : Node) :
    Prop :=
  ∀ q, pattern.AsksBelow follows p node q → fs.Askable q

/-- Whether a path is found: its name matches, and it leads to a file. -/
def isFound (fs : FileSystem) (pattern : Pattern) (q : Path) : Bool :=
  pattern.matches q.name && (fs.isFile q).toOption == some true

theorem isFound_eq_true {q : Path} : fs.isFound pattern q = true ↔
    pattern.matches q.name = true ∧ fs.isFile q = .ok true := by
  rw [isFound, Bool.and_eq_true, beq_iff_eq, toOption_eq_some_iff]

theorem name_entry (p : Path) (name : String) : (p.entry name).name = name := p.name_below [] name

theorem askable_iff_isFile {q : Path} : (∃ b, fs.isFile q = .ok b) ↔ fs.Askable q := by
  constructor
  · rintro ⟨b, answered⟩
    obtain ⟨node, status, -⟩ := exists_of_map_eq_ok answered
    exact ⟨node, status⟩
  · exact Askable.isFile

theorem askLink_eq_ok_iff {name : String} {target : String} :
    fs.askLink follows p name (.link target) = .ok () ↔
      (follows = true → fs.Askable (p.entry name)) := by
  rw [askLink]
  cases follows with
  | false => exact iff_of_true rfl nofun
  | true =>
      rw [if_pos (Eq.refl true)]
      constructor
      · intro asked _
        cases answer : fs.isDirectory (p.entry name) with
        | ok b =>
            obtain ⟨node, status, -⟩ := exists_of_map_eq_ok answer
            exact ⟨node, status⟩
        | error e =>
            rw [answer] at asked
            cases asked
      · intro askable
        obtain ⟨b, answer⟩ := (askable rfl).isDirectory
        rw [answer]

/-- Sorting out the entries of a directory asks about those whose names match. -/
theorem filesAmong_eq_ok_iff {entries : List (String × Node)} {found : List Path} :
    fs.filesAmong pattern p entries = .ok found ↔
      (∀ e ∈ entries, pattern.matches e.1 = true → fs.Askable (p.entry e.1)) ∧
        found = (entries.map fun e => p.entry e.1).filter (fs.isFound pattern) := by
  rw [filesAmong, filterM_eq_ok_iff]
  have asked : (∀ q ∈ (entries.filter fun e => pattern.matches e.1).map (fun e => p.entry e.1),
      ∃ b, fs.isFile q = .ok b) ↔
        ∀ e ∈ entries, pattern.matches e.1 = true → fs.Askable (p.entry e.1) := by
    simp only [List.forall_mem_map, List.mem_filter, and_imp, askable_iff_isFile]
  have kept : ((entries.filter fun e => pattern.matches e.1).map fun e => p.entry e.1).filter
      (fun q => (fs.isFile q).toOption == some true) =
        (entries.map fun e => p.entry e.1).filter (fs.isFound pattern) := by
    rw [List.filter_map, List.filter_map, List.filter_filter]
    congr 1
    refine List.filter_congr fun e _ => ?_
    rw [Function.comp_apply, Function.comp_apply, isFound, name_entry, Bool.and_comm]
  rw [asked, kept]

/-- A directory is searched by reading it, and then by going through its entries twice. -/
theorem filesFrom_dir_eq_ok_iff {entries : List (String × Node)} {found : List Path} :
    fs.filesFrom follows pattern p (.dir entries) = .ok found ↔ fs.Askable p ∧
      ∃ here below, fs.filesAmong pattern p entries = .ok here ∧
        fs.filesFromAll follows pattern p entries = .ok below ∧ found = here ++ below := by
  rw [filesFrom]
  constructor
  · intro searched
    obtain ⟨node, status, searched⟩ := exists_of_bind_eq_ok searched
    obtain ⟨here, among, searched⟩ := exists_of_bind_eq_ok searched
    obtain ⟨below, all, same⟩ := exists_of_bind_eq_ok searched
    cases same
    exact ⟨⟨node, status⟩, here, below, among, all, rfl⟩
  · rintro ⟨⟨node, status⟩, here, below, among, all, rfl⟩
    rw [status, among, all]
    rfl

theorem filesFromAll_cons_eq_ok_iff {name : String} {node : Node}
    {entries : List (String × Node)} {found : List Path} :
    fs.filesFromAll follows pattern p ((name, node) :: entries) = .ok found ↔
      fs.askLink follows p name node = .ok () ∧
        ∃ first others, fs.filesFrom follows pattern (p.entry name) node = .ok first ∧
          fs.filesFromAll follows pattern p entries = .ok others ∧ found = first ++ others := by
  rw [filesFromAll]
  constructor
  · intro searched
    obtain ⟨⟨⟩, asked, searched⟩ := exists_of_bind_eq_ok searched
    obtain ⟨first, below, searched⟩ := exists_of_bind_eq_ok searched
    obtain ⟨others, all, same⟩ := exists_of_bind_eq_ok searched
    cases same
    exact ⟨asked, first, others, below, all, rfl⟩
  · rintro ⟨asked, first, others, below, all, rfl⟩
    rw [asked, below, all]
    rfl

theorem answers_dir {entries : List (String × Node)} :
    fs.Answers follows pattern p (.dir entries) ↔ ∀ e ∈ entries,
      (pattern.Asks follows (p.entry e.1) e.2 → fs.Askable (p.entry e.1)) ∧
        fs.Answers follows pattern (p.entry e.1) e.2 := by
  constructor
  · intro answers e among
    exact ⟨fun asks => answers _ (Pattern.asksBelow_dir.2 ⟨e, among, .inl ⟨asks, rfl⟩⟩),
      fun q below => answers q (Pattern.asksBelow_dir.2 ⟨e, among, .inr below⟩)⟩
  · intro answers q asked
    obtain ⟨e, among, ⟨asks, rfl⟩ | below⟩ := Pattern.asksBelow_dir.1 asked
    · exact (answers e among).1 asks
    · exact (answers e among).2 q below

mutual

/-- A search succeeds exactly if what it asks about can be asked about, and its start can be
read. -/
theorem exists_filesFrom_iff (pattern : Pattern) (p : Path) : (node : Node) →
    ((∃ found, fs.filesFrom follows pattern p node = .ok found) ↔
      (∀ entries, node = .dir entries → fs.Askable p) ∧ fs.Answers follows pattern p node)
  | .file _ _ => iff_of_true ⟨[], rfl⟩ ⟨nofun, by rintro q ⟨_, ⟨⟩, _⟩⟩
  | .link _ => iff_of_true ⟨[], rfl⟩ ⟨nofun, by rintro q ⟨_, ⟨⟩, _⟩⟩
  | .dir entries => by
      have all := exists_filesFromAll_iff pattern p entries
      rw [answers_dir]
      simp only [filesFrom_dir_eq_ok_iff, filesAmong_eq_ok_iff]
      constructor
      · rintro ⟨_, readable, here, below, ⟨askable, -⟩, searched, -⟩
        refine ⟨fun _ _ => readable, fun e among => ?_⟩
        obtain ⟨branch, answers⟩ := all.1 ⟨below, searched⟩ e among
        refine ⟨?_, answers⟩
        rintro (fits | branches)
        · rw [name_entry] at fits
          exact askable e among fits
        · exact branch branches
      · rintro ⟨readable, answers⟩
        obtain ⟨below, searched⟩ := all.2 fun e among =>
          ⟨fun branches => (answers e among).1 (.inr branches), (answers e among).2⟩
        refine ⟨_, readable entries rfl, _, below, ⟨fun e among fits => ?_, rfl⟩, searched, rfl⟩
        exact (answers e among).1 (.inl (by rwa [name_entry]))

/-- Going into the entries of a directory succeeds exactly if their searches do, and if the links
and directories among them can be asked about. -/
theorem exists_filesFromAll_iff (pattern : Pattern) (p : Path) :
    (entries : List (String × Node)) →
    ((∃ found, fs.filesFromAll follows pattern p entries = .ok found) ↔ ∀ e ∈ entries,
      (e.2.IsOpened follows → fs.Askable (p.entry e.1)) ∧
        fs.Answers follows pattern (p.entry e.1) e.2)
  | [] => iff_of_true ⟨[], rfl⟩ (List.forall_mem_nil _)
  | (name, node) :: entries => by
      have first := exists_filesFrom_iff pattern (p.entry name) node
      have others := exists_filesFromAll_iff pattern p entries
      rw [List.forall_mem_cons, ← others]
      have opens : (node.IsOpened follows → fs.Askable (p.entry name)) ↔
          fs.askLink follows p name node = .ok () ∧
            ∀ entries, node = .dir entries → fs.Askable (p.entry name) := by
        cases node with
        | file bytes executable => exact iff_of_true nofun ⟨rfl, nofun⟩
        | link target =>
            rw [askLink_eq_ok_iff]
            exact ⟨fun askable => ⟨askable, nofun⟩, And.left⟩
        | dir entries =>
            exact ⟨fun askable => ⟨rfl, fun _ _ => askable trivial⟩,
              fun askable _ => askable.2 _ rfl⟩
      simp only [filesFromAll_cons_eq_ok_iff]
      constructor
      · rintro ⟨_, asked, found, rest, below, all, -⟩
        obtain ⟨readable, answers⟩ := first.1 ⟨found, below⟩
        exact ⟨⟨opens.2 ⟨asked, readable⟩, answers⟩, rest, all⟩
      · rintro ⟨⟨askable, answers⟩, rest, all⟩
        obtain ⟨asked, readable⟩ := opens.1 askable
        obtain ⟨found, below⟩ := first.2 ⟨readable, answers⟩
        exact ⟨_, asked, found, rest, below, all, rfl⟩

end

/-! ## What is found -/

/-- The paths of some entries that are found. -/
def picked (fs : FileSystem) (pattern : Pattern) (p : Path) (entries : List (List String × Node)) :
    List Path :=
  (entries.map fun e => p.below e.1).filter (fs.isFound pattern)

theorem picked_append (first others : List (List String × Node)) :
    fs.picked pattern p (first ++ others) =
      fs.picked pattern p first ++ fs.picked pattern p others := by
  rw [picked, List.map_append, List.filter_append]
  rfl

theorem picked_entry (name : String) (entries : List (List String × Node)) :
    fs.picked pattern p (entries.map (Prod.map (name :: ·) id)) =
      fs.picked pattern (p.entry name) entries := by
  have deeper : ∀ e : List String × Node, p.below (name :: e.1) = (p.entry name).below e.1 :=
    fun e => p.below_append [name] e.1
  rw [picked, List.map_map, picked]
  simp only [Function.comp_def, Prod.map, deeper]

mutual

/-- A search finds what is listed and fits, in some order. -/
theorem perm_filesFrom (pattern : Pattern) (p : Path) : (node : Node) → (found : List Path) →
    fs.filesFrom follows pattern p node = .ok found → found.Perm (fs.picked pattern p node.listing)
  | .file _ _, _, searched => by
      cases searched
      exact .nil
  | .link _, _, searched => by
      cases searched
      exact .nil
  | .dir entries, found, searched => by
      obtain ⟨-, here, below, among, all, rfl⟩ := filesFrom_dir_eq_ok_iff.1 searched
      obtain ⟨-, rfl⟩ := filesAmong_eq_ok_iff.1 among
      have listed : (fs.picked pattern p (Node.listingOf entries)).Perm
          (fs.picked pattern p (entries.map (fun e => ([e.1], e.2)) ++ Node.deeper entries)) :=
        ((Node.perm_listingOf entries).map _).filter _
      have here : fs.picked pattern p (entries.map fun e => ([e.1], e.2)) =
          (entries.map fun e => p.entry e.1).filter (fs.isFound pattern) := by
        rw [picked, List.map_map]
        rfl
      refine .trans ?_ listed.symm
      rw [picked_append, here]
      exact (perm_filesFromAll pattern p entries below all).append_left _

theorem perm_filesFromAll (pattern : Pattern) (p : Path) : (entries : List (String × Node)) →
    (found : List Path) → fs.filesFromAll follows pattern p entries = .ok found →
    found.Perm (fs.picked pattern p (Node.deeper entries))
  | [], _, searched => by
      cases searched
      exact .nil
  | (name, node) :: entries, _, searched => by
      obtain ⟨-, first, others, below, all, rfl⟩ := filesFromAll_cons_eq_ok_iff.1 searched
      rw [Node.deeper_cons, picked_append, picked_entry]
      exact (perm_filesFrom pattern (p.entry name) node first below).append
        (perm_filesFromAll pattern p entries others all)

end

/-! ## Why a search fails -/

/-- Whether a refusal is the answer to asking about a path. -/
def Refuses (fs : FileSystem) (q : Path) (e : File.Error) : Prop :=
  ∃ e', fs.status q = .error e' ∧ e'.cause = e.cause

/-- Whether a refusal is the answer to something that a search asks about below a path with a
node. -/
def Blocks (fs : FileSystem) (follows : Bool) (pattern : Pattern) (p : Path) (node : Node)
    (e : File.Error) : Prop :=
  ∃ q, pattern.AsksBelow follows p node q ∧ fs.Refuses q e

theorem blocks_dir {entries : List (String × Node)} {e : File.Error} :
    fs.Blocks follows pattern p (.dir entries) e ↔ ∃ l ∈ entries,
      pattern.Asks follows (p.entry l.1) l.2 ∧ fs.Refuses (p.entry l.1) e ∨
        fs.Blocks follows pattern (p.entry l.1) l.2 e := by
  constructor
  · rintro ⟨q, asked, refuses⟩
    obtain ⟨l, among, ⟨asks, rfl⟩ | below⟩ := Pattern.asksBelow_dir.1 asked
    · exact ⟨l, among, .inl ⟨asks, refuses⟩⟩
    · exact ⟨l, among, .inr ⟨q, below, refuses⟩⟩
  · rintro ⟨l, among, ⟨asks, refuses⟩ | ⟨q, below, refuses⟩⟩
    · exact ⟨_, Pattern.asksBelow_dir.2 ⟨l, among, .inl ⟨asks, rfl⟩⟩, refuses⟩
    · exact ⟨q, Pattern.asksBelow_dir.2 ⟨l, among, .inr below⟩, refuses⟩

theorem refuses_of_askLink {name : String} {node : Node} {e : File.Error}
    (refused : fs.askLink follows p name node = .error e) :
    node.IsOpened follows ∧ fs.Refuses (p.entry name) e := by
  cases node with
  | file | dir => cases refused
  | link target =>
      rw [askLink] at refused
      cases follows with
      | false => cases refused
      | true =>
          rw [if_pos (Eq.refl true)] at refused
          cases answer : fs.isDirectory (p.entry name) with
          | ok b =>
              rw [answer] at refused
              cases refused
          | error e' =>
              rw [answer] at refused
              cases refused
              exact ⟨rfl, e', map_eq_error_iff.1 answer, rfl⟩

theorem refuses_of_filesAmong {entries : List (String × Node)} {e : File.Error}
    (refused : fs.filesAmong pattern p entries = .error e) :
    ∃ l ∈ entries, pattern.matches l.1 = true ∧ fs.Refuses (p.entry l.1) e := by
  obtain ⟨q, among, answer⟩ := exists_of_filterM_eq_error refused
  obtain ⟨l, kept, rfl⟩ := List.mem_map.1 among
  obtain ⟨among, fits⟩ := List.mem_filter.1 kept
  exact ⟨l, among, fits, e, isFile_eq_error.1 answer, rfl⟩

mutual

/-- A search fails only over its start or something that it asks about below. -/
theorem blocks_of_filesFrom (pattern : Pattern) (p : Path) (e : File.Error) : (node : Node) →
    fs.filesFrom follows pattern p node = .error e →
    (∃ entries, node = .dir entries) ∧ fs.Refuses p e ∨ fs.Blocks follows pattern p node e
  | .file _ _, refused => by cases refused
  | .link _, refused => by cases refused
  | .dir entries, refused => by
      rw [filesFrom] at refused
      rcases bind_eq_error_iff.1 refused with unread | ⟨node, -, refused⟩
      · exact .inl ⟨⟨entries, rfl⟩, e, unread, rfl⟩
      · right
        rcases bind_eq_error_iff.1 refused with unsorted | ⟨here, -, refused⟩
        · obtain ⟨l, among, fits, refuses⟩ := refuses_of_filesAmong unsorted
          rw [← name_entry p l.1] at fits
          exact blocks_dir.2 ⟨l, among, .inl ⟨.inl fits, refuses⟩⟩
        · rcases bind_eq_error_iff.1 refused with unsearched | ⟨below, -, refused⟩
          · exact blocks_of_filesFromAll pattern p e entries unsearched
          · cases refused

/-- Going into the entries of a directory fails only over one of them or something below. -/
theorem blocks_of_filesFromAll (pattern : Pattern) (p : Path) (e : File.Error) :
    (entries : List (String × Node)) → fs.filesFromAll follows pattern p entries = .error e →
    fs.Blocks follows pattern p (.dir entries) e
  | [], refused => by cases refused
  | (name, node) :: entries, refused => by
      rw [filesFromAll] at refused
      rcases bind_eq_error_iff.1 refused with unasked | ⟨⟨⟩, -, refused⟩
      · obtain ⟨opened, refuses⟩ := refuses_of_askLink unasked
        exact blocks_dir.2 ⟨_, List.mem_cons_self, .inl ⟨.inr opened, refuses⟩⟩
      · rcases bind_eq_error_iff.1 refused with unsearched | ⟨first, -, refused⟩
        · rcases blocks_of_filesFrom pattern (p.entry name) e node unsearched with
            ⟨⟨_, rfl⟩, refuses⟩ | blocks
          · exact blocks_dir.2 ⟨_, List.mem_cons_self, .inl ⟨.inr trivial, refuses⟩⟩
          · exact blocks_dir.2 ⟨_, List.mem_cons_self, .inr blocks⟩
        · rcases bind_eq_error_iff.1 refused with unsearched | ⟨others, -, refused⟩
          · obtain ⟨l, among, blocks⟩ :=
              blocks_dir.1 (blocks_of_filesFromAll pattern p e entries unsearched)
            exact blocks_dir.2 ⟨l, List.mem_cons_of_mem _ among, blocks⟩
          · cases refused

end

end FileSystem

end PluginBuild
