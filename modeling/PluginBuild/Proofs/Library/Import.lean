/-
# Proofs.Library.Import -- a body can import whatever its package holds

Importing does nothing but bind names in the module of the body (`Interpreter.Binds`): no other
module changes, none comes or goes, and of all names only the one that is asked for is bound, or
those without an underscore at the front (`binds_withImport`).

Two names say which package a module belongs to (`LiveModule.BelongsTo`).  As long as they do, the
module can import each name that the package holds (`imported_of_held`).
-/
import PluginBuild.Library.Import
import PluginBuild.Proofs.Except

namespace PluginBuild

set_option autoImplicit false

open LiveModule

/-! ## Registered modules -/

namespace Interpreter

variable {i j k : Interpreter} {key name : String}

theorem module?_register_self (i : Interpreter) (key : String) (m : LiveModule) :
    (i.register key m).module? key = some m := Keyed.lookup_put_self key m i.modules

theorem module?_register_of_ne {other : String} (h : other ≠ key) (m : LiveModule) :
    (i.register key m).module? other = i.module? other := Keyed.lookup_put_of_ne h m i.modules

theorem module?_bind_self (i : Interpreter) (key name : String) (value : Value) :
    (i.bind key name value).module? key =
      some (Keyed.put name value ((i.module? key).getD [])) := module?_register_self _ _ _

theorem module?_bind_of_ne {other : String} (h : other ≠ key) (name : String) (value : Value) :
    (i.bind key name value).module? other = i.module? other := module?_register_of_ne h _

/-- What a name stands for in the module under a key, if the module holds it. -/
def lookup (i : Interpreter) (key name : String) : Option Value :=
  ((i.module? key).getD []).lookup name

theorem lookup_bind_of_ne {other : String} (h : other ≠ name) (key : String) (value : Value) :
    (i.bind key name value).lookup key other = i.lookup key other := by
  rw [lookup, module?_bind_self]
  exact Keyed.lookup_put_of_ne h _ _

/-! ## Binding names in one module -/

/-- Whether an interpreter has come from another by binding such names in the module under a
key. -/
structure Binds (key : String) (names : String → Prop) (i j : Interpreter) : Prop where
  trace : j.trace = i.trace
  keys : j.modules.map Prod.fst = i.modules.map Prod.fst
  others : ∀ other, other ≠ key → j.module? other = i.module? other
  kept : ∀ name, ¬ names name → j.lookup key name = i.lookup key name
  known : (i.module? key).isSome = true → (j.module? key).isSome = true

variable {names names' : String → Prop}

theorem Binds.refl (i : Interpreter) : Binds key names i i :=
  ⟨rfl, rfl, fun _ _ => rfl, fun _ _ => rfl, id⟩

theorem Binds.trans (h : Binds key names i j) (h' : Binds key names j k) : Binds key names i k where
  trace := h'.trace.trans h.trace
  keys := h'.keys.trans h.keys
  others other ne := (h'.others other ne).trans (h.others other ne)
  kept name unbound := (h'.kept name unbound).trans (h.kept name unbound)
  known there := h'.known (h.known there)

theorem Binds.mono (h : Binds key names i j) (wider : ∀ name, names name → names' name) :
    Binds key names' i j :=
  { h with kept := fun name unbound => h.kept name (mt (wider name) unbound) }

theorem binds_bind (known : (i.module? key).isSome = true) (bound : names name) (value : Value) :
    Binds key names i (i.bind key name value) where
  trace := rfl
  keys := Keyed.keys_put known _
  others other ne := module?_bind_of_ne ne name value
  kept other unbound := by
    refine lookup_bind_of_ne ?_ key value
    rintro rfl
    exact unbound bound
  known _ := by rw [module?_bind_self]; rfl

theorem binds_foldl_bind (known : (i.module? key).isSome = true) {values : List (String × Value)}
    (bound : ∀ v ∈ values, names v.1) :
    Binds key names i (values.foldl (fun i (name, value) => i.bind key name value) i) := by
  induction values generalizing i with
  | nil => exact .refl i
  | cons v values ih =>
      have first := binds_bind known (bound v List.mem_cons_self) v.2
      exact first.trans (ih (first.known known) fun w hw => bound w (List.mem_cons_of_mem v hw))

/-! ## Importing -/

theorem searchPath_foldl_bind (i : Interpreter) (key : String) (values : List (String × Value)) :
    (values.foldl (fun i (name, value) => i.bind key name value) i).searchPath = i.searchPath := by
  induction values generalizing i with
  | nil => rfl
  | cons v values ih => exact ih _

/-- Importing leaves the search path alone. -/
theorem searchPath_withImport (h : i.withImport key name = .ok j) :
    j.searchPath = i.searchPath := by
  obtain ⟨values, -, h⟩ := exists_of_bind_eq_ok h
  cases h
  exact searchPath_foldl_bind i key values

/-- Whether asking for a name may bring another. -/
def Brings (asked name : String) : Prop := name = asked ∨ "_".isPrefixOf name = false

theorem brings_of_allFrom {package : LiveModule} {values : List (String × Value)}
    (h : allFrom package = .ok values) (asked : String) : ∀ v ∈ values, Brings asked v.1 := by
  obtain ⟨exported, -, h⟩ := exists_of_bind_eq_ok h
  cases exported with
  | some exported => cases h
  | none =>
      cases h
      intro v hv
      exact .inr (by simpa using (List.mem_filter.1 hv).2)

theorem brings_of_imported {m : LiveModule} {values : List (String × Value)}
    (h : i.imported m name = .ok values) : ∀ v ∈ values, Brings name v.1 := by
  obtain ⟨full, -, h⟩ := exists_of_bind_eq_ok h
  obtain ⟨package, -, h⟩ := exists_of_bind_eq_ok h
  split at h
  · exact brings_of_allFrom h name
  · obtain ⟨found, -, h⟩ := exists_of_bind_eq_ok h
    dsimp only at h
    have one : ∃ value, values = [(name, value)] := by
      by_cases isPackage : found.isSome = true
      · rw [if_pos isPackage] at h
        obtain ⟨-, -, h⟩ := exists_of_bind_eq_ok h
        obtain ⟨value, -, h⟩ := exists_of_bind_eq_ok h
        cases h
        exact ⟨value, rfl⟩
      · rw [if_neg isPackage] at h
        obtain ⟨value, -, h⟩ := exists_of_bind_eq_ok h
        cases h
        exact ⟨value, rfl⟩
    obtain ⟨value, rfl⟩ := one
    intro v hv
    rw [List.mem_singleton.1 hv]
    exact .inl rfl

theorem binds_withImport (known : (i.module? key).isSome = true)
    (h : i.withImport key name = .ok j) : Binds key (Brings name) i j := by
  obtain ⟨values, imported, h⟩ := exists_of_bind_eq_ok h
  cases h
  exact binds_foldl_bind known (brings_of_imported imported)

end Interpreter

/-! ## What a package holds -/

namespace LiveModule

/-- Whether a module says that it belongs to a package. -/
structure BelongsTo (m : LiveModule) (package : String) : Prop where
  package : m.lookup Special.package = some (.text package)
  spec : m.lookup Special.spec = some .nothing

/-- Whether a name is one of those that say where a module belongs. -/
def IsBelonging (name : String) : Prop := name = Special.package ∨ name = Special.spec

instance : DecidablePred IsBelonging := fun _ => inferInstanceAs (Decidable (_ ∨ _))

/-- Names that say where a module belongs have an underscore at the front. -/
theorem IsBelonging.underscored {name : String} (h : IsBelonging name) :
    "_".isPrefixOf name = true := by
  refine String.startsWith_string_iff.2 ?_
  rcases h with rfl | rfl <;> decide

theorem belongsTo_ofModule (name package file : String) :
    (ofModule name package file).BelongsTo package := by
  constructor <;> simp [ofModule, named, Keyed.put, Special.package, Special.spec, Special.file,
    Special.fullName, List.lookup_cons]

theorem attribute?_of_held {m : LiveModule} {name : String} {value : Value}
    (holdable : name ∉ Special.unholdable) (held : m.lookup name = some value) :
    m.attribute? name = .ok (some value) := by
  simp [attribute?, holdable, held]

end LiveModule

namespace Interpreter

variable {i j : Interpreter} {key name package : String} {m p : LiveModule} {value : Value}

theorem packageName_of_belongsTo (named : package ≠ "") (belongs : m.BelongsTo package) :
    i.packageName m = .ok package := by
  have said : m.held Special.package = .text package := by rw [held, belongs.package]; rfl
  have spec : m.held Special.spec = .nothing := by rw [held, belongs.spec]; rfl
  rw [packageName, said, spec]
  exact if_neg named

/-- Each name that a package holds can be imported by the modules that belong to it. -/
theorem imported_of_held (named : package ≠ "") (belongs : m.BelongsTo package)
    (registered : i.module? package = some p) (path : (p.lookup Special.path).isSome = true)
    (holdable : name ∉ Special.unholdable) (one : name ≠ allNames)
    (held : p.lookup name = some value) : i.imported m name = .ok [(name, value)] := by
  obtain ⟨_, isPackage⟩ := Option.isSome_iff_exists.1 path
  have there := attribute?_of_held holdable held
  have pathThere := attribute?_of_held (show Special.path ∉ Special.unholdable by decide) isPackage
  have found : i.find package = .ok p := by rw [find, registered]
  have ensured : i.ensure p name = .ok () := by rw [ensure, there]; rfl
  have taken : i.valueFrom p name = .ok value := by rw [valueFrom, there]; rfl
  rw [imported, packageName_of_belongsTo named belongs]
  show (i.find package >>= _) = _
  rw [found]
  show (if name = allNames then _ else _) = _
  rw [if_neg one, pathThere]
  show (i.ensure p name >>= _) = _
  rw [ensured]
  show (i.valueFrom p name >>= _) = _
  rw [taken]
  rfl

end Interpreter

end PluginBuild
