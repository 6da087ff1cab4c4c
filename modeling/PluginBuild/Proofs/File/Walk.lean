/-
# Proofs.File.Walk -- following a path along real directories

Names that real directories lead along mean the same wherever they are followed from: a walk goes
on as they stand, whatever links it has followed before (`walk_leads`, `walk_cases`).  So what a
path below a directory leads to is what lies there in the tree, as long as the path is not too
long (`status_below`, and `status_of_unlinked` from the root), and a path means the same as when
it is made absolute (`walk_absolute`).
-/
import PluginBuild.Proofs.File.Listing
import PluginBuild.Proofs.File.Tree

namespace PluginBuild

set_option autoImplicit false

open PluginBuild.Text PluginBuild.File

def Node.isLink : Node → Bool
  | .link _ => true
  | _ => false

/-- Whether no link is on the way, where names lead. -/
def Node.unlinked (node : Node) : List String → Bool
  | [] => !node.isLink
  | name :: names => !node.isLink && match node.entry? name with
    | none => true
    | some n => n.unlinked names

namespace FileSystem

/-- Whether a file system can be on a disk: its tree is sound, and relative paths start in a
directory. -/
structure IsSound (fs : FileSystem) : Prop where
  root : fs.root.IsSound
  current : ∃ entries, fs.root.at? fs.current = some (.dir entries)

/-! ## Walks -/

section Walks

variable {root n : Node} {last : Bool} {links : Nat} {here place : Place}
  {names pending : List String}

/-- What lies in a directory under a name is where the name leads. -/
theorem walk_entry {entries : List (String × Node)} {name : String} {m : Node}
    (directory : here.node = .dir entries) (isName : Node.IsName name)
    (entry : entries.lookup name = some m) (real : ∀ target, m ≠ .link target) :
    walk root last links here (name :: pending) =
      walk root last links ⟨here.names ++ [name], m⟩ pending := by
  have plain : ¬(name = "" ∨ name = ".") := by simp [isName.notEmpty, isName.notPoint]
  have fits : ¬maxName < name.utf8ByteSize := Nat.not_lt.2 isName.short
  obtain ⟨found, node⟩ := here
  obtain rfl : node = .dir entries := directory
  rw [walk]
  simp only [plain, isName.notUp, fits, if_false, Node.entry?, entry]

/-- A walk goes on as names stand that real directories lead along. -/
theorem walk_leads (areNames : ∀ name ∈ names, Node.IsName name)
    (leads : here.node.at? names = some n) (real : ∀ target, n ≠ .link target) :
    walk root last links here (names ++ pending) =
      walk root last links ⟨here.names ++ names, n⟩ pending := by
  induction names generalizing here with
  | nil =>
      cases leads
      rw [List.append_nil, List.nil_append]
  | cons name names ih =>
      obtain ⟨entries, m, directory, entry, leads⟩ := Node.at?_cons_eq_some.1 leads
      obtain ⟨isName, areNames⟩ := List.forall_mem_cons.1 areNames
      have real' : ∀ target, m ≠ .link target := by
        rintro target rfl
        cases names with
        | nil =>
            cases leads
            exact real target rfl
        | cons => cases leads
      rw [List.cons_append, walk_entry directory isName entry real', ih areNames leads,
        List.append_assoc]
      rfl

/-- A walk ends where its last names lead. -/
theorem walk_to (areNames : ∀ name ∈ names, Node.IsName name)
    (leads : here.node.at? names = some n) (real : ∀ target, n ≠ .link target) :
    walk root last links here names = .ok ⟨here.names ++ names, n⟩ :=
  calc walk root last links here names
    _ = walk root last links here (names ++ []) := by rw [List.append_nil]
    _ = walk root last links ⟨here.names ++ names, n⟩ [] := walk_leads areNames leads real
    _ = .ok ⟨here.names ++ names, n⟩ := by rw [walk]

theorem real_of_unlinked {node : Node} (unlinked : node.unlinked names = true)
    (leads : node.at? names = some n) (target : String) : n ≠ .link target := by
  induction names generalizing node with
  | nil =>
      cases leads
      rintro rfl
      exact absurd unlinked Bool.false_ne_true
  | cons name names ih =>
      rw [Node.unlinked, Bool.and_eq_true] at unlinked
      obtain ⟨m, entry, leads⟩ := Option.bind_eq_some_iff.1 leads
      rw [entry] at unlinked
      exact ih unlinked.2 leads

/-- A walk that comes to a name of no entry is refused there. -/
theorem walk_lost (areNames : ∀ name ∈ names, Node.IsName name)
    (unlinked : here.node.unlinked names = true) (lost : here.node.at? names = none) :
    ∃ cause, cause.meansNothing = true ∧ walk root last links here names = .error cause := by
  induction names generalizing here with
  | nil => cases lost
  | cons name names ih =>
      obtain ⟨found, node⟩ := here
      obtain ⟨isName, areNames⟩ := List.forall_mem_cons.1 areNames
      rw [Node.unlinked, Bool.and_eq_true] at unlinked
      rw [Node.at?] at lost
      cases node with
      | file bytes executable =>
          rw [walk]
          exact ⟨.notDirectory, rfl, rfl⟩
      | link target => exact absurd unlinked.1 Bool.false_ne_true
      | dir entries =>
          cases entry : entries.lookup name with
          | none =>
              have plain : ¬(name = "" ∨ name = ".") := by simp [isName.notEmpty, isName.notPoint]
              have fits : ¬maxName < name.utf8ByteSize := Nat.not_lt.2 isName.short
              rw [walk]
              simp only [plain, isName.notUp, fits, if_false, Node.entry?, entry]
              exact ⟨.absent, rfl, rfl⟩
          | some m =>
              rw [show Node.entry? name (.dir entries) = some m from entry] at unlinked lost
              have real : ∀ target, m ≠ .link target := by
                rintro target rfl
                cases names <;> exact absurd unlinked.2 Bool.false_ne_true
              rw [walk_entry rfl isName entry real]
              exact ih areNames unlinked.2 lost

/-- Why a walk may not go on. -/
def refusals : List Cause := [.absent, .notDirectory, .nameTooLong, .tooManyLinks]

/-- Whether a walk comes to a place of the tree, and goes on from there with the links that are
left. -/
def Arrives (root : Node) (links : Nat) (here : Place) (pending : List String) : Prop :=
  ∃ place left, walk root true links here pending = .ok place ∧
    root.at? place.names = some place.node ∧
    ∀ more, walk root true links here (pending ++ more) = walk root true left place more

/-- A walk that goes on from another place arrives where the walk from there does. -/
theorem Arrives.turn {links' : Nat} {here' : Place} {pending' : List String}
    (h : Arrives root links' here' pending')
    (turn : ∀ more, walk root true links here (pending ++ more) =
      walk root true links' here' (pending' ++ more)) : Arrives root links here pending := by
  obtain ⟨place, left, walked, there, goes⟩ := h
  have same := turn []
  rw [List.append_nil, List.append_nil] at same
  exact ⟨place, left, same.trans walked, there, fun more => (turn more).trans (goes more)⟩

/-- Above a place of the tree is one. -/
theorem at?_up (there : root.at? names = some n) :
    root.at? names.dropLast = some (reach root names.dropLast) := by
  obtain ⟨m, leads⟩ : ∃ m, root.at? names.dropLast = some m := by
    rcases List.eq_nil_or_concat names with rfl | ⟨front, name, rfl⟩
    · exact ⟨root, rfl⟩
    · rw [List.concat_eq_append, Node.at?_append, Option.bind_eq_some_iff] at there
      obtain ⟨m, leads, -⟩ := there
      exact ⟨m, by rwa [List.concat_eq_append, List.dropLast_concat]⟩
  rw [reach, leads, Option.getD_some]

/-- A walk is refused, or comes to a place of the tree. -/
theorem walk_cases (there : root.at? here.names = some here.node) :
    (∃ cause ∈ refusals, walk root true links here pending = .error cause) ∨
      Arrives root links here pending := by
  fun_induction walk root true links here pending with
  | case1 links here => exact .inr ⟨here, links, by rw [walk], there, fun _ => rfl⟩
  | case2 links here name rest entries directory plain ih =>
      refine (ih there).imp_right fun arrives => arrives.turn fun more => ?_
      rw [List.cons_append, walk]
      simp only [directory, plain, if_true]
  | case3 links here rest entries directory up proper ih =>
      refine (ih (at?_up there)).imp_right fun arrives => arrives.turn fun more => ?_
      rw [List.cons_append, walk]
      simp only [directory, proper, if_true, if_false]
      rfl
  | case4 => exact .inl ⟨.nameTooLong, by decide, rfl⟩
  | case5 => exact .inl ⟨.absent, by decide, rfl⟩
  | case6 links here name rest entries directory proper up fits target entry unfollowed =>
      simp at unfollowed
  | case7 => exact .inl ⟨.tooManyLinks, by decide, rfl⟩
  | case8 here name rest entries directory proper up fits target entry followed links start ih =>
      have starts : root.at? start.names = some start.node := by
        unfold start
        split
        · rfl
        · exact there
      refine (ih starts).imp_right fun arrives => arrives.turn fun more => ?_
      obtain ⟨found, node⟩ := here
      obtain rfl : node = .dir entries := directory
      rw [List.cons_append, walk]
      simp only [proper, up, fits, if_false, entry, Bool.not_true, Bool.and_false,
        Bool.false_eq_true]
      rw [List.append_assoc]
      rfl
  | case9 links here name rest entries directory proper up fits node real entry ih =>
      have leads : root.at? (here.names ++ [name]) = some node := by
        rw [Node.at?_append, there, Option.bind_some, Node.at?, entry]
        rfl
      refine (ih leads).imp_right fun arrives => arrives.turn fun more => ?_
      obtain ⟨found, node'⟩ := here
      obtain rfl : node' = .dir entries := directory
      rw [List.cons_append, walk]
      simp only [proper, up, fits, if_false, entry]
  | case10 => exact .inl ⟨.notDirectory, by decide, rfl⟩

end Walks

/-! ## Paths below a path -/

variable {fs : FileSystem} {p q : Path} {n : Node} {last : Bool}

/-- The place that a path is followed from. -/
def origin (fs : FileSystem) (p : Path) : Place :=
  if p.isAbsolute then ⟨[], fs.root⟩ else ⟨fs.current, reach fs.root fs.current⟩

theorem find_eq (fs : FileSystem) (p : Path) (last : Bool) : fs.find p last =
    if maxPath < p.text.utf8ByteSize then .error .nameTooLong
    else walk fs.root last maxLinks (fs.origin p) p.parts := by
  rw [find, origin]
  split
  · rfl
  · split <;> rfl

/-- A path that can be asked about is not too long, unless no path can be written so. -/
theorem short_of_status {found : Option Node} (visible : ¬hasNul p = true)
    (answered : fs.status p = .ok found) : ¬maxPath < p.text.utf8ByteSize := by
  intro long
  rw [status, if_neg visible, find_eq, if_pos long] at answered
  cases answered

/-- What can be said of a path is what following it comes to. -/
theorem eq_find_of_status {found : Option Node} (visible : ¬hasNul p = true)
    (answered : fs.status p = .ok found) : found = (fs.find p true).toOption.map Place.node := by
  rw [status, if_neg visible] at answered
  cases followed : fs.find p true with
  | ok place =>
      rw [followed] at answered
      cases answered
      rfl
  | error cause =>
      rw [followed] at answered
      dsimp only at answered
      split at answered <;> cases answered
      rfl

theorem absolute_below (p : Path) (names : List String) :
    fs.absolute (p.below names) = (fs.absolute p).below names := by
  have same : (p.below names).isAbsolute = p.isAbsolute := rfl
  rw [absolute, absolute, same]
  split
  · rfl
  · rw [Path.below, Path.below, Path.mk.injEq]
    exact ⟨rfl, (List.append_assoc ..).symm⟩

theorem isAbsolute_absolute (p : Path) : (fs.absolute p).isAbsolute = true := by
  rw [absolute]
  split
  · assumption
  · rfl

theorem hasNul_iff : hasNul p = true ↔ ∃ part ∈ p.parts, '\x00' ∈ part.toList := by
  rw [hasNul, List.contains_iff_mem, Path.mem_text (by decide) (by decide)]

/-- A path of names with no link on the way leads to what lies there in the tree, if anything
does. -/
theorem status_of_unlinked (areNames : ∀ name ∈ p.parts, Node.IsName name)
    (unlinked : (fs.origin p).node.unlinked p.parts = true)
    (short : ¬maxPath < p.text.utf8ByteSize) :
    fs.status p = .ok ((fs.origin p).node.at? p.parts) := by
  have visible : ¬hasNul p = true := by
    rw [hasNul_iff]
    rintro ⟨part, among, nul⟩
    exact (areNames part among).noNul nul
  rw [status, if_neg visible, find_eq, if_neg short]
  cases leads : (fs.origin p).node.at? p.parts with
  | none =>
      obtain ⟨cause, nothing, lost⟩ : ∃ cause, cause.meansNothing = true ∧
          walk fs.root true maxLinks (fs.origin p) p.parts = .error cause :=
        walk_lost areNames unlinked leads
      rw [lost]
      exact if_pos nothing
  | some n =>
      rw [walk_to areNames leads (real_of_unlinked unlinked leads)]

namespace IsSound

theorem origin (sound : fs.IsSound) (p : Path) :
    fs.root.at? (fs.origin p).names = some (fs.origin p).node := by
  obtain ⟨entries, leads⟩ := sound.current
  rw [FileSystem.origin]
  split
  · rfl
  · rw [reach, leads]
    rfl

/-- A path is refused, or leads to a place of the tree from which each path below it goes on. -/
theorem find_cases (sound : fs.IsSound) (p : Path) :
    (∃ cause ∈ refusals, fs.find p true = .error cause) ∨
      ∃ place left, fs.find p true = .ok place ∧ fs.root.at? place.names = some place.node ∧
        ∀ names, ¬maxPath < (p.below names).text.utf8ByteSize →
          fs.find (p.below names) true = walk fs.root true left place names := by
  rw [find_eq]
  split
  · exact .inl ⟨.nameTooLong, by decide, rfl⟩
  · refine (walk_cases (sound.origin p)).imp_right ?_
    rintro ⟨place, left, walked, there, goes⟩
    refine ⟨place, left, walked, there, fun names short => ?_⟩
    rw [find_eq, if_neg short]
    exact goes names

/-- What a path leads to is sound. -/
theorem place (sound : fs.IsSound) {place : Place} (found : fs.find p true = .ok place) :
    place.node.IsSound := by
  rcases sound.find_cases p with ⟨cause, -, refused⟩ | ⟨place', -, found', there, -⟩
  · rw [refused] at found
    cases found
  · rw [found'] at found
    cases found
    exact (sound.root.at? there).1

/-- Below a path lies what the tree has there: names that real directories lead along may be
put behind the path, as long as it does not get too long. -/
theorem status_below (sound : fs.IsSound) {start : Node} {names : List String}
    (status : fs.status p = .ok (some start)) (leads : start.at? names = some n)
    (real : ∀ target, n ≠ .link target) : fs.status (p.below names) =
      if maxPath < (p.below names).text.utf8ByteSize
      then .error ⟨.nameTooLong, (p.below names).text⟩ else .ok (some n) := by
  rw [FileSystem.status] at status
  split at status
  · cases status
  · next visible =>
    rcases sound.find_cases p with ⟨cause, -, refused⟩ | ⟨place, left, found, there, goes⟩
    · rw [refused] at status
      dsimp only at status
      split at status <;> cases status
    · rw [found] at status
      cases status
      obtain ⟨-, areNames⟩ := (sound.place found).at? leads
      have visible' : ¬hasNul (p.below names) = true := by
        rw [hasNul_iff] at visible ⊢
        rintro ⟨part, among, nul⟩
        rcases List.mem_append.1 among with inPath | inNames
        · exact visible ⟨part, inPath, nul⟩
        · exact (areNames part inNames).noNul nul
      rw [FileSystem.status, if_neg visible']
      by_cases long : maxPath < (p.below names).text.utf8ByteSize
      · rw [find_eq, if_pos long, if_pos long]
        rfl
      · rw [goes names long, walk_to areNames leads real, if_neg long]

/-! ## Paths made absolute -/

/-- A path means the same as when it is made absolute. -/
theorem walk_absolute (sound : fs.IsSound) (p : Path) :
    walk fs.root last maxLinks (fs.origin (fs.absolute p)) (fs.absolute p).parts =
      walk fs.root last maxLinks (fs.origin p) p.parts := by
  obtain ⟨entries, leads⟩ := sound.current
  by_cases absolute : p.isAbsolute = true
  · rw [FileSystem.absolute, if_pos absolute]
  · have start : fs.origin p = ⟨fs.current, .dir entries⟩ := by
      rw [FileSystem.origin, if_neg absolute, reach, leads]
      rfl
    have starts : fs.origin ⟨.single, fs.current ++ p.parts⟩ = ⟨[], fs.root⟩ := rfl
    have real : ∀ target, Node.dir entries ≠ .link target := nofun
    rw [FileSystem.absolute, if_neg absolute, start, starts,
      walk_leads (sound.root.at? leads).2 leads real]
    rfl

theorem hasNul_absolute (sound : fs.IsSound) (p : Path) :
    hasNul (fs.absolute p) = hasNul p := by
  obtain ⟨entries, leads⟩ := sound.current
  obtain ⟨-, areNames⟩ := sound.root.at? leads
  rw [FileSystem.absolute]
  split
  · rfl
  · rw [Bool.eq_iff_iff, hasNul_iff, hasNul_iff]
    constructor
    · rintro ⟨part, among, nul⟩
      rcases List.mem_append.1 among with inCurrent | inPath
      · exact absurd nul (areNames part inCurrent).noNul
      · exact ⟨part, inPath, nul⟩
    · rintro ⟨part, among, nul⟩
      exact ⟨part, List.mem_append_right _ among, nul⟩

/-- Paths that are the same when made absolute lead to the same, where it can be said what. -/
theorem status_congr (sound : fs.IsSound) (same : fs.absolute p = fs.absolute q)
    {found found' : Option Node} (hp : fs.status p = .ok found) (hq : fs.status q = .ok found') :
    found = found' := by
  have nul : hasNul p = hasNul q := by
    rw [← sound.hasNul_absolute p, same, sound.hasNul_absolute q]
  by_cases isNul : hasNul q = true
  · rw [status, if_pos (nul.trans isNul)] at hp
    rw [status, if_pos isNul] at hq
    cases hp
    cases hq
    rfl
  · have isNul' : ¬hasNul p = true := nul ▸ isNul
    have leads : fs.find p true = fs.find q true := by
      rw [find_eq, find_eq, if_neg (short_of_status isNul' hp), if_neg (short_of_status isNul hq),
        ← sound.walk_absolute p, same, sound.walk_absolute q]
    rw [eq_find_of_status isNul' hp, leads, eq_find_of_status isNul hq]

/-! ## Paths in normal form -/

theorem isNormal_absolute (sound : fs.IsSound) (normal : p.IsNormal) :
    (fs.absolute p).IsNormal := by
  obtain ⟨entries, leads⟩ := sound.current
  obtain ⟨-, areNames⟩ := sound.root.at? leads
  rw [FileSystem.absolute]
  split
  · exact normal
  · intro part among
    rcases List.mem_append.1 among with inCurrent | inPath
    · exact (areNames part inCurrent).toIsPart
    · exact normal part inPath

end IsSound

end FileSystem

end PluginBuild
