/-
# Proofs.Library.Load -- all modules of a library stand before the first body runs

Registering a library puts every module in its place, unless the name of one cannot be held by a
package; then nothing runs (`register_of_holdable`, `register_of_unholdable`).  A body changes no
module but its own, and that only when it runs (`awaits_importing`, `awaits_forM_runBody`).  So
whatever ran before, each body finds all modules of its library on the package and can import them
in any order (`importName_of_awaits`).

What was compiled together is thus loaded as a whole (`load_emitted`): the bodies run in order
behind the registration, up to the first that fails.
-/
import PluginBuild.Library.Load
import PluginBuild.Proofs.Act
import PluginBuild.Proofs.Library.Import
import PluginBuild.Proofs.Library.Obstacle

namespace PluginBuild.Load

set_option autoImplicit false

open LiveModule

/-! ## Names -/

variable {library : String} {modules before after todo : List Module} {m : Module}
  {i j : Interpreter}

theorem qualified_inj {a b : String} : qualified library a = qualified library b ↔ a = b :=
  String.append_right_inj _

theorem qualified_ne (library name : String) : qualified library name ≠ library := by
  intro same
  have longer := congrArg String.length same
  simp only [qualified, String.length_append] at longer
  have point : ".".length = 1 := by decide
  omega

theorem unholdable?_eq_none_iff {name : String} :
    unholdable? name = none ↔ name ∉ Special.unholdable := by
  have differ : Special.dictionary ≠ Special.class_ := by decide
  unfold unholdable? Special.unholdable
  by_cases isClass : name = Special.class_
  · simp [isClass]
  · by_cases isDictionary : name = Special.dictionary <;> simp [isClass, isDictionary, differ]

/-- What is registered under the full name of a module is among the modules of its library. -/
theorem mem_registered {name : String}
    (there : (i.module? (qualified library name)).isSome = true) :
    qualified library name ∈ registered i library := by
  refine List.mem_filter.2 ⟨?_, ?_⟩
  · obtain ⟨p, hp, same⟩ := List.lookup_isSome_iff.1 there
    exact List.mem_map.2 ⟨p, hp, (beq_iff_eq.1 same).symm⟩
  · refine String.startsWith_string_iff.2 ?_
    rw [qualified, String.toList_append (s := library ++ ".")]
    exact List.prefix_append _ _

/-! ## The search path -/

/-- The references that a search path lacks come behind it, each once. -/
theorem searchPath_withReferences (references : List String) (i : Interpreter) :
    (withReferences references i).searchPath =
      i.searchPath ++ (references.filter fun r => r ∉ i.searchPath).eraseDups := by
  show references.foldl withReference i.searchPath = _
  generalize i.searchPath = path
  induction references generalizing path with
  | nil => simp
  | cons r references ih =>
      rw [List.foldl_cons, ih, withReference]
      by_cases known : r ∈ path
      · simp [known]
      · simp [known, List.eraseDups_cons, List.filter_filter, and_comm, beq_eq_decide]

/-! ## Registering -/

/-- Whether a library is registered and some of its bodies have not begun yet: the package holds
every module, and a module whose body has not begun is as it was made. -/
structure Awaits (library : String) (modules todo : List Module) (i : Interpreter) : Prop where
  package : ∃ p, i.module? library = some p ∧ (p.lookup Special.path).isSome = true ∧
    ∀ m ∈ modules, p.lookup m.name = some (.live (qualified library m.name))
  todo : ∀ m ∈ todo, i.module? (qualified library m.name) =
    some (.ofModule (qualified library m.name) library m.path)

/-- Registering a module puts it in its place. -/
theorem registerModule_of_holdable (holdable : m.name ∉ Special.unholdable) :
    registerModule library m i = ⟨.ok (), (i.register (qualified library m.name)
      (.ofModule (qualified library m.name) library m.path)).bind library m.name
        (.live (qualified library m.name)), []⟩ := by
  rw [registerModule, unholdable?_eq_none_iff.2 holdable]
  rfl

theorem registerModule_keeps (library : String) (m : Module) (i : Interpreter) :
    (registerModule library m i).state.searchPath = i.searchPath ∧
      (registerModule library m i).state.trace = i.trace := by
  unfold registerModule
  cases unholdable? m.name <;> exact ⟨rfl, rfl⟩

theorem awaits_registerModule (h : Awaits library modules modules i)
    (holdable : m.name ∉ Special.unholdable) (new : m.name ∉ modules.map (·.name)) :
    Awaits library (modules ++ [m]) (modules ++ [m]) (registerModule library m i).state := by
  obtain ⟨p, registered, path, held⟩ := h.package
  have other : library ≠ qualified library m.name := (qualified_ne library m.name).symm
  rw [registerModule_of_holdable holdable]
  refine ⟨⟨Keyed.put m.name (.live (qualified library m.name)) p, ?_, ?_, ?_⟩, ?_⟩
  · rw [Interpreter.module?_bind_self, Interpreter.module?_register_of_ne other, registered]
    rfl
  · by_cases same : m.name = Special.path
    · rw [← same, Keyed.lookup_put_self]
      rfl
    · rw [Keyed.lookup_put_of_ne (Ne.symm same)]
      exact path
  · intro n hn
    rcases List.mem_append.1 hn with hn | hn
    · have differs : n.name ≠ m.name := fun same => new (List.mem_map.2 ⟨n, hn, same⟩)
      rw [Keyed.lookup_put_of_ne differs, held n hn]
    · obtain rfl := List.mem_singleton.1 hn
      exact Keyed.lookup_put_self _ _ _
  · intro n hn
    rw [Interpreter.module?_bind_of_ne (qualified_ne library n.name)]
    rcases List.mem_append.1 hn with hn | hn
    · have differs : qualified library n.name ≠ qualified library m.name :=
        fun same => new (List.mem_map.2 ⟨n, hn, qualified_inj.1 same⟩)
      rw [Interpreter.module?_register_of_ne differs, h.todo n hn]
    · obtain rfl := List.mem_singleton.1 hn
      exact Interpreter.module?_register_self _ _ _

/-- Behind modules that are registered, others are registered one by one. -/
theorem awaits_forM_registerModule (h : Awaits library modules modules i)
    (holdable : ∀ m ∈ todo, m.name ∉ Special.unholdable)
    (distinct : ((modules ++ todo).map (·.name)).Nodup) :
    (todo.forM (registerModule library) i).result = .ok () ∧
      Awaits library (modules ++ todo) (modules ++ todo)
        (todo.forM (registerModule library) i).state := by
  induction todo generalizing modules i with
  | nil =>
      rw [List.append_nil]
      exact ⟨rfl, h⟩
  | cons m todo ih =>
      have here := holdable m List.mem_cons_self
      have new : m.name ∉ modules.map (·.name) := by
        intro old
        rw [List.map_append, List.nodup_append] at distinct
        exact distinct.2.2 _ old _ List.mem_cons_self rfl
      have first : (registerModule library m i).result = .ok () := by
        rw [registerModule_of_holdable here]
      rw [List.append_cons] at distinct ⊢
      rw [Act.forM_cons, Act.result_bind, Act.state_bind, first]
      exact ih (awaits_registerModule h here new) (fun n hn => holdable n (List.mem_cons_of_mem m hn))
        distinct

/-- A library whose modules can all be held is registered as a whole. -/
theorem register_of_holdable (holdable : ∀ m ∈ modules, m.name ∉ Special.unholdable)
    (distinct : (modules.map (·.name)).Nodup) (i : Interpreter) :
    (register library modules i).result = .ok () ∧
      Awaits library modules modules (register library modules i).state := by
  have unbound : Awaits library [] [] (i.register library (.ofPackage library)) := by
    refine ⟨⟨.ofPackage library, Interpreter.module?_register_self _ _ _, ?_, nofun⟩, nofun⟩
    rw [ofPackage, Keyed.lookup_put_self]
    rfl
  exact awaits_forM_registerModule unbound holdable distinct

theorem register_keeps (library : String) (modules : List Module) (i : Interpreter) :
    (register library modules i).state.searchPath = i.searchPath ∧
      (register library modules i).state.trace = i.trace := by
  let kept (j : Interpreter) := j.searchPath = i.searchPath ∧ j.trace = i.trace
  refine Act.keeps_forM (p := kept) ?_ ⟨rfl, rfl⟩
  rintro m - j ⟨path, trace⟩
  obtain ⟨path', trace'⟩ := registerModule_keeps library m j
  exact ⟨path'.trans path, trace'.trans trace⟩

/-- The first module that cannot be held ends the registration. -/
theorem register_of_unholdable {e : LoadError}
    (unholdable : modules.findSome? (fun m => unholdable? m.name) = some e) (i : Interpreter) :
    (register library modules i).result = .error e := by
  show (modules.forM (registerModule library) (i.register library (.ofPackage library))).result = _
  generalize i.register library (.ofPackage library) = i
  induction modules generalizing i with
  | nil => cases unholdable
  | cons m modules ih =>
      rw [Act.forM_cons, Act.result_bind]
      cases here : unholdable? m.name with
      | some e' =>
          rw [List.findSome?_cons, here] at unholdable
          cases unholdable
          rw [registerModule, here]
          rfl
      | none =>
          rw [List.findSome?_cons, here] at unholdable
          rw [registerModule_of_holdable (unholdable?_eq_none_iff.1 here)]
          exact ih unholdable _

/-! ## Running -/

/-- A body from its beginning to the import of some names. -/
def importing (library : String) (m : Module) (names : List String) : Step Unit := do
  Act.modify (beginBody library (qualified library m.name))
  names.forM (importName (qualified library m.name))

/-- How the body of a module is put on record, with the modules that stand when it begins. -/
def recordOf (library : String) (registered : List String) (m : Module) : Execution :=
  ⟨.text (qualified library m.name), .text m.path, .text library, registered⟩

/-- What is left behind by bodies, of which the last need not have come to its end. -/
structure Leaves (library : String) (begun : List Module) (i j : Interpreter) : Prop where
  trace : j.trace = i.trace ++ begun.map (recordOf library (registered i library))
  registered : registered j library = registered i library

theorem binds_builtins {key : String} (known : (i.module? key).isSome = true) :
    Interpreter.Binds key (· = Special.builtins) i (i.bind key Special.builtins .other) := by
  refine Interpreter.binds_bind known ?_ .other
  rfl

theorem beginBody_of_made (made : i.module? (qualified library m.name) =
    some (.ofModule (qualified library m.name) library m.path)) :
    beginBody library (qualified library m.name) i =
      { i.bind (qualified library m.name) Special.builtins .other with
        trace := i.trace ++ [recordOf library (registered i library) m] } := by
  have bare : (ofModule (qualified library m.name) library m.path).lookup Special.builtins = none := by
    simp [ofModule, named, Keyed.put, Special.builtins, Special.package, Special.spec,
      Special.file, Special.fullName, List.lookup_cons]
  have known : (i.module? (qualified library m.name)).isSome = true := by rw [made]; rfl
  have same : registered (i.bind (qualified library m.name) Special.builtins .other) library =
      registered i library := by
    rw [registered, (binds_builtins known).keys, registered]
  rw [beginBody, made, Option.getD_some, bare, Option.isSome_none, if_neg Bool.false_ne_true, same]
  rfl

theorem binds_importName {key : String} (known : (i.module? key).isSome = true) (name : String) :
    Interpreter.Binds key (Interpreter.Brings name) i (importName key name i).state := by
  unfold importName
  cases brought : i.withImport key name with
  | error e => exact .refl i
  | ok j => exact Interpreter.binds_withImport known brought

theorem binds_forM_importName {key : String} (known : (i.module? key).isSome = true)
    (names : List String) :
    Interpreter.Binds key (fun name => ∃ asked ∈ names, Interpreter.Brings asked name) i
      (names.forM (importName key) i).state := by
  refine Act.keeps_forM ?_ (.refl i)
  intro asked among j reached
  have brought := binds_importName (reached.known known) asked
  exact reached.trans (brought.mono fun name brings => ⟨asked, among, brings⟩)

/-- Beginning a body and importing into it leave a record and bind names in its module, and that
is all. -/
theorem binds_importing (made : i.module? (qualified library m.name) =
    some (.ofModule (qualified library m.name) library m.path)) (names : List String) :
    Interpreter.Binds (qualified library m.name)
      (fun name => name = Special.builtins ∨ ∃ asked ∈ names, Interpreter.Brings asked name)
      { i with trace := i.trace ++ [recordOf library (registered i library) m] }
      (importing library m names i).state := by
  have known : (i.module? (qualified library m.name)).isSome = true := by rw [made]; rfl
  let recorded : Interpreter :=
    { i with trace := i.trace ++ [recordOf library (registered i library) m] }
  have begins : Interpreter.Binds _ _ recorded _ := binds_builtins known
  have imports := binds_forM_importName (begins.known known) names
  rw [importing, Act.state_bind, Act.result_modify, Act.state_modify, beginBody_of_made made]
  exact (begins.mono fun _ => .inl).trans (imports.mono fun _ => .inr)

section Body

variable {names : List String}

theorem leaves_importing (h : Awaits library modules (m :: after) i) (names : List String) :
    Leaves library [m] i (importing library m names i).state := by
  have binds := binds_importing (h.todo m List.mem_cons_self) names
  refine ⟨binds.trace, ?_⟩
  rw [registered, binds.keys, registered]

/-- A body leaves all modules but its own alone. -/
theorem awaits_importing (h : Awaits library modules (m :: after) i)
    (distinct : ((m :: after).map (·.name)).Nodup) (names : List String) :
    Awaits library modules after (importing library m names i).state := by
  have binds := binds_importing (h.todo m List.mem_cons_self) names
  constructor
  · rw [binds.others library (qualified_ne library m.name).symm]
    exact h.package
  · intro n hn
    rw [binds.others]
    · exact h.todo n (List.mem_cons_of_mem m hn)
    · intro same
      rw [List.map_cons, List.nodup_cons] at distinct
      exact distinct.1 (List.mem_map.2 ⟨n, hn, qualified_inj.1 same⟩)

/-- The module of a body belongs to the library until it imports a name that says where. -/
theorem belongsTo_importing (h : Awaits library modules (m :: after) i)
    (outside : ∀ name ∈ names, ¬ IsBelonging name) :
    (((importing library m names i).state.module? (qualified library m.name)).getD []).BelongsTo
      library := by
  have made := h.todo m List.mem_cons_self
  have binds := binds_importing made names
  -- Neither of the two names is bound at the beginning or brought by another.
  have kept : ∀ name, IsBelonging name →
      (importing library m names i).state.lookup (qualified library m.name) name =
        (ofModule (qualified library m.name) library m.path).lookup name := by
    intro name belonging
    rw [binds.kept]
    · show ((i.module? (qualified library m.name)).getD []).lookup name = _
      rw [made, Option.getD_some]
    · rintro (rfl | ⟨asked, among, rfl | plain⟩)
      · revert belonging
        decide
      · exact outside _ among belonging
      · rw [belonging.underscored] at plain
        cases plain
  have belongs := belongsTo_ofModule (qualified library m.name) library m.path
  exact ⟨(kept _ (.inl rfl)).trans belongs.package, (kept _ (.inr rfl)).trans belongs.spec⟩

/-- Whatever ran before and was imported before, a body imports each module of its library. -/
theorem importName_of_awaits (h : Awaits library modules (m :: after) i)
    (distinct : ((m :: after).map (·.name)).Nodup) (named : library ≠ "")
    (outside : ∀ name ∈ names, ¬ IsBelonging name) {name : String}
    (sibling : name ∈ modules.map (·.name)) (holdable : name ∉ Special.unholdable)
    (one : name ≠ Interpreter.allNames) :
    importName (qualified library m.name) name (importing library m names i).state =
      ⟨.ok (), (importing library m names i).state.bind (qualified library m.name) name
        (.live (qualified library name)), []⟩ := by
  obtain ⟨p, registered, path, held⟩ := (awaits_importing h distinct names).package
  obtain ⟨n, hn, rfl⟩ := List.mem_map.1 sibling
  have brought := Interpreter.imported_of_held named (belongsTo_importing h outside) registered path
    holdable one (held n hn)
  rw [importName, Interpreter.withImport, brought]
  rfl

end Body

/-! ### Bodies one after another -/

/-- What a body comes to once it has imported all its names. -/
def ending (m : Module) : Except LoadError Unit :=
  match m.body.failure with
  | none => .ok ()
  | some text => .error (.failed text)

theorem result_runBody (library : String) (m : Module) (i : Interpreter) :
    (runBody library m i).result = match (importing library m m.body.imports i).result with
      | .ok () => ending m
      | .error e => .error e := by
  unfold runBody importing ending
  simp only [Act.result_bind, Act.result_modify, Act.state_modify]
  cases (m.body.imports.forM (importName (qualified library m.name))
    (beginBody library (qualified library m.name) i)).result with
  | error e => rfl
  | ok => cases m.body.failure <;> rfl

theorem state_runBody (library : String) (m : Module) (i : Interpreter) :
    (runBody library m i).state = (importing library m m.body.imports i).state := by
  unfold runBody importing
  simp only [Act.state_bind, Act.result_modify, Act.state_modify]
  cases (m.body.imports.forM (importName (qualified library m.name))
    (beginBody library (qualified library m.name) i)).result with
  | error e => rfl
  | ok => cases m.body.failure <;> rfl

theorem searchPath_runBody (library : String) (m : Module) (i : Interpreter) :
    (runBody library m i).state.searchPath = i.searchPath := by
  rw [state_runBody]
  show ((m.body.imports.forM (importName (qualified library m.name)))
    (beginBody library (qualified library m.name) i)).state.searchPath = _
  refine Act.keeps_forM (p := fun j : Interpreter => j.searchPath = i.searchPath) ?_ ?_
  · intro name _ j kept
    unfold importName
    cases brought : j.withImport (qualified library m.name) name with
    | error e => exact kept
    | ok k => exact (Interpreter.searchPath_withImport brought).trans kept
  · unfold beginBody
    dsimp only
    split <;> rfl

/-- Whether a body imports nothing but modules of its library by name, and nothing behind a name
that says where it belongs. -/
def ImportsSiblings (modules : List Module) (m : Module) : Prop :=
  ∀ names name later, m.body.imports = names ++ name :: later →
    name ∈ modules.map (·.name) ∧ name ≠ Interpreter.allNames ∧ ∀ n ∈ names, ¬ IsBelonging n

theorem importsSiblings_of_plain (plain : ∀ name ∈ m.body.imports,
    name ∈ modules.map (·.name) ∧ name ≠ Interpreter.allNames ∧ ¬ IsBelonging name) :
    ImportsSiblings modules m := by
  intro names name later split
  rw [split] at plain
  obtain ⟨sibling, one, -⟩ := plain name (List.mem_append_right _ List.mem_cons_self)
  exact ⟨sibling, one, fun n hn => (plain n (List.mem_append_left _ hn)).2.2⟩

/-- A body that imports only its siblings fails exactly if it does so by itself. -/
theorem result_runBody_of_siblings (h : Awaits library modules (m :: after) i)
    (distinct : ((m :: after).map (·.name)).Nodup) (named : library ≠ "")
    (holdable : ∀ m ∈ modules, m.name ∉ Special.unholdable) (siblings : ImportsSiblings modules m) :
    (runBody library m i).result = ending m := by
  rw [result_runBody]
  rcases Act.forM_cases (importName (qualified library m.name)) m.body.imports
      (beginBody library (qualified library m.name) i) with
    done | ⟨names, name, later, e, split, -, failed, -⟩
  · have imported : (importing library m m.body.imports i).result = .ok () := done
    rw [imported]
  · obtain ⟨sibling, one, outside⟩ := siblings names name later split
    obtain ⟨n, hn, rfl⟩ := List.mem_map.1 sibling
    have found := importName_of_awaits h distinct named outside sibling (holdable n hn) one
    have fails : (importName (qualified library m.name) n.name
        (importing library m names i).state).result = .error e := failed
    rw [found] at fails
    cases fails

theorem leaves_nil (library : String) (i : Interpreter) : Leaves library [] i i :=
  ⟨(List.append_nil _).symm, rfl⟩

theorem Leaves.cons {k : Interpreter} (first : Leaves library [m] i j)
    (others : Leaves library todo j k) : Leaves library (m :: todo) i k where
  trace := by
    rw [others.trace, first.registered, first.trace, List.append_assoc]
    rfl
  registered := others.registered.trans first.registered

/-- Behind bodies that come to their end, the others still await theirs. -/
theorem awaits_forM_runBody (h : Awaits library modules (todo ++ after) i)
    (distinct : ((todo ++ after).map (·.name)).Nodup)
    (done : (todo.forM (runBody library) i).result = .ok ()) :
    Awaits library modules after (todo.forM (runBody library) i).state ∧
      Leaves library todo i (todo.forM (runBody library) i).state := by
  induction todo generalizing i with
  | nil => exact ⟨h, leaves_nil library i⟩
  | cons m todo ih =>
      have stands := awaits_importing h distinct m.body.imports
      have leaves := leaves_importing h m.body.imports
      rw [← state_runBody] at stands leaves
      rw [Act.forM_cons] at done ⊢
      obtain ⟨⟨⟩, first, rest⟩ := Act.result_bind_eq_ok.1 done
      rw [Act.state_bind, first]
      obtain ⟨awaits, others⟩ := ih stands (List.nodup_cons.1 distinct).2 rest
      exact ⟨awaits, leaves.cons others⟩

theorem nodup_behind (distinct : ((before ++ after).map (·.name)).Nodup) :
    (after.map (·.name)).Nodup := by
  rw [List.map_append] at distinct
  exact (List.nodup_append.1 distinct).2.1

/-- The bodies that begin are those from the first up to one that fails, each once. -/
theorem exists_begun (h : Awaits library modules modules i)
    (distinct : (modules.map (·.name)).Nodup) :
    ∃ begun rest, modules = begun ++ rest ∧
      (modules.forM (runBody library) i).state.trace =
        i.trace ++ begun.map (recordOf library (registered i library)) ∧
      ((rest = [] ∧ (modules.forM (runBody library) i).result = .ok ()) ∨
        ∃ before m e, begun = before ++ [m] ∧ (before.forM (runBody library) i).result = .ok () ∧
          (runBody library m (before.forM (runBody library) i).state).result = .error e ∧
          (modules.forM (runBody library) i).result = .error e) := by
  rcases Act.forM_cases (runBody library) modules i with
    done | ⟨before, m, after, e, rfl, done, failed, stopped, last⟩
  · have all : modules = modules ++ [] := (List.append_nil _).symm
    rw [all] at h distinct
    obtain ⟨-, leaves⟩ := awaits_forM_runBody h distinct done
    exact ⟨modules, [], all, leaves.trace, .inl ⟨rfl, done⟩⟩
  · obtain ⟨reached, leaves⟩ := awaits_forM_runBody h distinct done
    have begun := leaves_importing reached m.body.imports
    rw [← state_runBody] at begun
    refine ⟨before ++ [m], after, List.append_cons _ _ _, ?_,
      .inr ⟨before, m, e, rfl, done, failed, stopped⟩⟩
    rw [last, begun.trace, leaves.registered, leaves.trace, List.append_assoc, ← List.map_append]

/-- Bodies that import only their siblings come to their end, up to the first that fails by
itself. -/
theorem result_forM_of_siblings (h : Awaits library modules todo i)
    (distinct : (todo.map (·.name)).Nodup) (named : library ≠ "")
    (holdable : ∀ m ∈ modules, m.name ∉ Special.unholdable)
    (siblings : ∀ m ∈ todo, ImportsSiblings modules m) :
    (todo.forM (runBody library) i).result = match todo.findSome? (·.body.failure) with
      | none => .ok ()
      | some text => .error (.failed text) := by
  induction todo generalizing i with
  | nil => rfl
  | cons m todo ih =>
      have stands := awaits_importing h distinct m.body.imports
      rw [← state_runBody] at stands
      have first := result_runBody_of_siblings h distinct named holdable
        (siblings m List.mem_cons_self)
      rw [Act.forM_cons, Act.result_bind, first, ending, List.findSome?_cons]
      cases m.body.failure with
      | some text => rfl
      | none =>
          exact ih stands (List.nodup_cons.1 distinct).2
            fun n hn => siblings n (List.mem_cons_of_mem m hn)

/-! ## Loading -/

theorem byName_of_distinct (distinct : (modules.map (·.name)).Nodup) :
    byName modules = modules.map fun m => (m.name, m.path) := by
  suffices behind : ∀ named : List (String × String),
      (named.map Prod.fst ++ modules.map (·.name)).Nodup →
      modules.foldl (fun named m => Keyed.put m.name m.path named) named =
        named ++ modules.map fun m => (m.name, m.path) by
    exact behind [] distinct
  clear distinct
  induction modules with
  | nil => simp
  | cons m modules ih =>
      intro named distinct
      have new : m.name ∉ named.map Prod.fst := by
        intro old
        exact (List.nodup_append.1 distinct).2.2 _ old _ List.mem_cons_self rfl
      rw [List.foldl_cons, Keyed.put_of_not_mem new, ih]
      · simp
      · simpa using distinct

/-- What loading comes to once the library is registered.  Every module stands before the first
body begins, and each body finds every module whenever it imports it.  The bodies that begin are
those from the first in order, up to one that fails; its error is that of loading. -/
structure Runs (library : String) (modules : List Module) (references : List String)
    (i start : Interpreter) (o : Outcome Interpreter LoadError LoadedLibrary) : Prop where
  quiet : start.trace = i.trace
  state : o.state = (modules.forM (runBody library) start).state
  awaits : Awaits library modules modules start
  stands : ∀ m ∈ modules, qualified library m.name ∈ registered start library
  imports : ∀ before m after names name, modules = before ++ m :: after →
    (before.forM (runBody library) start).result = .ok () →
    (∀ n ∈ names, ¬ IsBelonging n) → name ∈ modules.map (·.name) → name ≠ Interpreter.allNames →
    let here := (importing library m names (before.forM (runBody library) start).state).state
    importName (qualified library m.name) name here =
      ⟨.ok (), here.bind (qualified library m.name) name (.live (qualified library name)), []⟩
  order : ∃ begun rest, modules = begun ++ rest ∧
    o.state.trace = i.trace ++ begun.map (recordOf library (registered start library)) ∧
    ((rest = [] ∧ (begun.forM (runBody library) start).result = .ok () ∧
        o.result = .ok ⟨library, modules.map fun m => (m.name, m.path), references⟩) ∨
      ∃ before m e, begun = before ++ [m] ∧ (before.forM (runBody library) start).result = .ok () ∧
        (runBody library m (before.forM (runBody library) start).state).result = .error e ∧
        o.result = .error e)
  siblings : (∀ m ∈ modules, ImportsSiblings modules m) →
    o.result = match modules.findSome? (·.body.failure) with
      | none => .ok ⟨library, modules.map fun m => (m.name, m.path), references⟩
      | some text => .error (.failed text)

/-- What loading a library comes to.  References that the search path lacks come behind it.  Where
the package cannot hold a module, the first such module is the error and no body begins; else the
library is registered and the bodies run. -/
structure Loads (library : String) (modules : List Module) (references : List String)
    (i : Interpreter) (o : Outcome Interpreter LoadError LoadedLibrary) : Prop where
  searchPath : o.state.searchPath =
    i.searchPath ++ (references.filter fun r => r ∉ i.searchPath).eraseDups
  refused : ∀ e, modules.findSome? (fun m => unholdable? m.name) = some e →
    o.result = .error e ∧ o.state.trace = i.trace
  runs : (∀ m ∈ modules, m.name ∉ Special.unholdable) →
    Runs library modules references i (register library modules (withReferences references i)).state o

section Image

variable {references : List String}

/-- The image of a library that is compiled for this interpreter. -/
def imageOf (library : String) (modules : List Module) (references : List String) : Image :=
  ⟨some library, modules, references, some Compiler.interpreterTag⟩

theorem loadIn_encode (codec : Codec) (library : String) (modules : List Module)
    (references : List String) :
    loadIn codec.decode? (codec.encode (.library (imageOf library modules references))) =
      loadImage (imageOf library modules references) := by
  rw [loadIn, codec.decode?_encode]
  rfl

theorem loadImage_of_refused {e : LoadError}
    (refused : (register library modules (withReferences references i)).result = .error e) :
    (loadImage (imageOf library modules references) i).result = .error e ∧
      (loadImage (imageOf library modules references) i).state =
        (register library modules (withReferences references i)).state := by
  simp only [loadImage, imageOf, Act.result_bind, Act.state_bind, Act.result_modify,
    Act.state_modify, refused]
  exact ⟨trivial, trivial⟩

theorem loadImage_of_registered
    (registered : (register library modules (withReferences references i)).result = .ok ()) :
    (loadImage (imageOf library modules references) i).state = (modules.forM (runBody library)
        (register library modules (withReferences references i)).state).state ∧
      (loadImage (imageOf library modules references) i).result = match (modules.forM
          (runBody library) (register library modules (withReferences references i)).state).result with
        | .ok () => .ok ⟨library, byName modules, references⟩
        | .error e => .error e := by
  simp only [loadImage, imageOf, Act.result_bind, Act.state_bind, Act.result_modify,
    Act.state_modify, registered]
  cases (modules.forM (runBody library)
    (register library modules (withReferences references i)).state).result with
  | error e => exact ⟨rfl, rfl⟩
  | ok => exact ⟨rfl, rfl⟩

theorem runs_of_holdable (named : library ≠ "") (distinct : (modules.map (·.name)).Nodup)
    (holdable : ∀ m ∈ modules, m.name ∉ Special.unholdable) (references : List String)
    (i : Interpreter) :
    Runs library modules references i (register library modules (withReferences references i)).state
      (loadImage (imageOf library modules references) i) := by
  obtain ⟨registered, awaits⟩ :=
    register_of_holdable holdable distinct (withReferences references i)
  obtain ⟨state, result⟩ := loadImage_of_registered registered
  have quiet : (register library modules (withReferences references i)).state.trace = i.trace :=
    (register_keeps library modules (withReferences references i)).2
  rw [byName_of_distinct distinct] at result
  generalize (register library modules (withReferences references i)).state = start at *
  refine ⟨quiet, state, awaits, ?_, ?_, ?_, ?_⟩
  · intro m hm
    apply mem_registered
    rw [awaits.todo m hm]
    rfl
  · rintro before m after names name rfl done outside sibling one
    obtain ⟨n, hn, rfl⟩ := List.mem_map.1 sibling
    have reached := (awaits_forM_runBody awaits distinct done).1
    exact importName_of_awaits reached (nodup_behind distinct) named outside sibling (holdable n hn)
      one
  · obtain ⟨begun, rest, split, trace, outcome⟩ := exists_begun awaits distinct
    rw [← state, quiet] at trace
    refine ⟨begun, rest, split, trace, ?_⟩
    rcases outcome with ⟨rfl, done⟩ | ⟨before, m, e, rfl, done, failed, stopped⟩
    · rw [List.append_nil] at split
      rw [result, ← split, done]
      exact .inl ⟨rfl, rfl, rfl⟩
    · rw [result, stopped]
      exact .inr ⟨before, m, e, rfl, done, failed, rfl⟩
  · intro siblings
    rw [result, result_forM_of_siblings awaits distinct named holdable siblings]
    cases modules.findSome? (·.body.failure) <;> rfl

theorem loads_of_distinct (named : library ≠ "") (distinct : (modules.map (·.name)).Nodup)
    (references : List String) (i : Interpreter) :
    Loads library modules references i (loadImage (imageOf library modules references) i) where
  searchPath := by
    rw [← searchPath_withReferences]
    have kept := (register_keeps library modules (withReferences references i)).1
    cases registered : (register library modules (withReferences references i)).result with
    | error e => rw [(loadImage_of_refused registered).2, kept]
    | ok =>
        rw [(loadImage_of_registered registered).1]
        refine Act.keeps_forM (p := fun j : Interpreter => j.searchPath = _) ?_ kept
        intro m _ j same
        rw [searchPath_runBody, same]
  refused e unholdable := by
    have refused : (register library modules (withReferences references i)).result = .error e :=
      register_of_unholdable unholdable _
    obtain ⟨result, state⟩ := loadImage_of_refused refused
    rw [state]
    exact ⟨result, (register_keeps library modules _).2⟩
  runs holdable := runs_of_holdable named distinct holdable references i

end Image

/-! ## From emitting to loading -/

section Emitted

variable {encode : Payload → List UInt8} {files : FileSystem} {front : FrontEnd}
  {optimize : Int} {units : List SourceUnit} {references : List String} {e : Emission}

/-- Units that an emission succeeds for become modules with names of their own. -/
theorem image_of_success (parsed : ∀ u ∈ units, u.IsParsed)
    (emitted : (Compiler.emitLibrary encode files front optimize (some library) units references
      ()).result = .ok e)
    (success : e.success = true) :
    ∃ modules, e.image = some (encode (.library (imageOf library modules references))) ∧
      List.Forall₂ (Compiler.IsCompiled front optimize) units modules ∧
      (units.map (·.moduleName)).Nodup := by
  obtain ⟨ofUnits, modules, unitsDone, said, outcome⟩ := Compiler.of_emitLibrary emitted
  rcases outcome with ⟨clean, -, image⟩ | ⟨-, failure, -⟩
  · have unused : ∀ name, ([] : List (String × String)).lookup name = Compiler.holder? [] name :=
      fun _ => rfl
    obtain ⟨tells, compiled⟩ := Compiler.of_emitUnits unused (fun u hu => (parsed u hu).speaks)
      unitsDone
    rw [said, Diagnostic.errors_append] at clean
    rw [(List.append_eq_nil_iff.1 clean).1] at tells
    have free := List.forall₂_nil_right_iff.1 tells
    exact ⟨modules, image, compiled free, (Compiler.obstacles_eq_nil_iff.1 free).2.2⟩
  · rw [success] at failure
    cases failure

theorem names_of_compiled
    (compiled : List.Forall₂ (Compiler.IsCompiled front optimize) units modules) :
    (modules.map fun m => (m.name, m.path)) = units.map fun u => (u.moduleName, u.path) := by
  induction compiled with
  | nil => rfl
  | cons first _ ih => rw [List.map_cons, List.map_cons, first.name, first.path, ih]

/-- Whatever compiles is loaded as a whole: the bodies of the units run in order, each where all
modules of the library stand, unless the package cannot hold one of them. -/
theorem load_emitted (codec : Codec) (named : library ≠ "") (parsed : ∀ u ∈ units, u.IsParsed)
    (emitted : ((Compiler.scriptsIn codec.encode files front optimize).emit (some library) units
      references ()).result = .ok e)
    (success : e.success = true) :
    ∃ bytes modules, e.image = some bytes ∧
      List.Forall₂ (Compiler.IsCompiled front optimize) units modules ∧
      (modules.map fun m => (m.name, m.path)) = units.map (fun u => (u.moduleName, u.path)) ∧
      ∀ i, Loads library modules references i (loadIn codec.decode? bytes i) := by
  obtain ⟨modules, image, compiled, distinct⟩ := image_of_success parsed emitted success
  have names := names_of_compiled compiled
  have same : modules.map (·.name) = units.map (·.moduleName) := by
    have firsts := congrArg (List.map Prod.fst) names
    rw [List.map_map, List.map_map] at firsts
    exact firsts
  refine ⟨_, modules, image, compiled, names, fun i => ?_⟩
  rw [loadIn_encode]
  exact loads_of_distinct named (same ▸ distinct) references i

end Emitted

/-! ### Libraries to load -/

/-- A language in which every body imports the same names. -/
def uniform (names : List String) : FrontEnd where
  parse path text _ := ⟨[], .ok ⟨path, text⟩⟩
  compile _ _ _ := ⟨[], .ok ⟨names, none⟩⟩

/-- The sources on a bench. -/
def benchFiles : List String := ["early.py", "late.py", "__class__.py"]

/-- A directory with these sources, in which nothing is written. -/
def bench : FileSystem := ⟨.dir (benchFiles.map fun file => (file, .file [] false)), []⟩

/-- The unit of a source on the bench. -/
def unitOf (file name : String) : SourceUnit := ⟨file, name, ⟨none, ∅⟩, some ⟨file, ""⟩, []⟩

theorem status_bench {file : String} (among : file ∈ benchFiles) :
    bench.status (.ofString file) = .ok (some (.file [] false)) := by
  simp only [benchFiles, List.mem_cons, List.not_mem_nil, or_false] at among
  rcases among with rfl | rfl | rfl <;>
    exact FileSystem.status_of_unlinked (by decide) (by decide) (by decide)

theorem isParsed_unitOf {file name : String} (among : file ∈ benchFiles)
    (stem : (Path.ofString file).stem = name) : (unitOf file name).IsParsed := by
  refine ⟨bench, uniform [], file, ⟨none, ∅⟩, ?_⟩
  have writable : FileSystem.hasNul (.ofString file) = false := by
    clear stem; revert file; decide
  have read : Source.read bench (.ofString file) = .ok "" := by
    rw [Source.read, FileSystem.read_of_status (status_bench among)]
    rfl
  have kept : Directive.preprocess "" ∅ = .ok "" := rfl
  simp only [Compiler.parseSource, writable, read, kept, stem]
  rfl

/-- Units with nothing to say make up a library. -/
theorem exists_success (front : FrontEnd) (units : List SourceUnit) {modules : List Module}
    (silent : (Compiler.emitUnits front (-1) [] units ()).result = .ok ([], modules)) :
    ∃ e, ((Compiler.scripts bench front (-1)).emit (some "Lib") units [] ()).result = .ok e ∧
      e.success = true := by
  obtain ⟨e, emitted, said, success⟩ := Compiler.exists_emission silent
    (List.forall_mem_nil (Compiler.Checkable bench))
  refine ⟨e, emitted, success.2 ?_⟩
  rw [said]
  rfl

theorem body_of_uniform {names : List String} {u : SourceUnit} {m : Module}
    (compiled : Compiler.IsCompiled (uniform names) (-1) u m) : m.body = ⟨names, none⟩ := by
  obtain ⟨_, -, made⟩ := compiled.body
  exact (Except.ok.inj made).symm

/-- Two modules that import one another, the first also before the second has run. -/
theorem load_emitted_mutual :
    ∃ e bytes, "Lib" ≠ "" ∧
      (∀ u ∈ [unitOf "early.py" "early", unitOf "late.py" "late"], u.IsParsed) ∧
      ((Compiler.scripts bench (uniform ["early", "late"]) (-1)).emit (some "Lib")
        [unitOf "early.py" "early", unitOf "late.py" "late"] [] ()).result = .ok e ∧
      e.success = true ∧ e.image = some bytes ∧
      ∀ i, (load bytes i).result =
        .ok ⟨"Lib", [("early", "early.py"), ("late", "late.py")], []⟩ := by
  have named : "Lib" ≠ "" := by decide
  have parsed : ∀ u ∈ [unitOf "early.py" "early", unitOf "late.py" "late"], u.IsParsed := by
    simp only [List.forall_mem_cons, List.not_mem_nil, false_imp_iff, implies_true, and_true]
    exact ⟨isParsed_unitOf (by decide) (by decide), isParsed_unitOf (by decide) (by decide)⟩
  obtain ⟨e, emitted, success⟩ := exists_success (uniform ["early", "late"])
    [unitOf "early.py" "early", unitOf "late.py" "late"] rfl
  obtain ⟨bytes, modules, image, compiled, names, loads⟩ :=
    load_emitted .compact named parsed emitted success
  refine ⟨e, bytes, named, parsed, emitted, success, image, fun i => ?_⟩
  rcases compiled with _ | ⟨first, _ | ⟨second, ⟨⟩⟩⟩
  next early late =>
  have bodies : ∀ m ∈ [early, late], m.body = ⟨["early", "late"], none⟩ := by
    simp [body_of_uniform first, body_of_uniform second]
  have called : [early, late].map (·.name) = ["early", "late"] := by
    simp [first.name, second.name, unitOf]
  have siblings : ∀ m ∈ [early, late], ImportsSiblings [early, late] m := by
    intro m hm
    refine importsSiblings_of_plain ?_
    rw [bodies m hm, called]
    decide
  have holdable : ∀ m ∈ [early, late], m.name ∉ Special.unholdable := by
    simp only [List.forall_mem_cons, List.not_mem_nil, false_imp_iff, implies_true, and_true,
      first.name, second.name]
    decide
  show (loadIn Codec.compact.decode? bytes i).result = _
  rw [((loads i).runs holdable).siblings siblings, names]
  simp [bodies, unitOf]

/-- A module that is called like the class of its package: the library compiles, and its loading
fails before any body begins. -/
theorem load_calledClass :
    ∃ e bytes, (∀ u ∈ [unitOf "__class__.py" "__class__"], u.IsParsed) ∧
      ((Compiler.scripts bench (uniform []) (-1)).emit (some "Lib")
        [unitOf "__class__.py" "__class__"] [] ()).result = .ok e ∧
      e.success = true ∧ e.image = some bytes ∧
      (load bytes .fresh).result = .error .calledClass ∧ (load bytes .fresh).state.trace = [] := by
  have parsed : ∀ u ∈ [unitOf "__class__.py" "__class__"], u.IsParsed :=
    List.forall_mem_singleton.2 (isParsed_unitOf (by decide) (by decide))
  obtain ⟨e, emitted, success⟩ :=
    exists_success (uniform []) [unitOf "__class__.py" "__class__"] rfl
  obtain ⟨modules, image, compiled, -⟩ := image_of_success parsed emitted success
  rcases compiled with _ | ⟨first, ⟨⟩⟩
  next m =>
  have unholdable : [m].findSome? (fun m => unholdable? m.name) = some .calledClass := by
    rw [List.findSome?_cons, first.name]
    rfl
  have alone : ([m].map (·.name)).Nodup := by simp
  have refused := (loads_of_distinct (show "Lib" ≠ "" by decide) alone [] .fresh).refused _
    unholdable
  refine ⟨e, _, parsed, emitted, success, image, ?_⟩
  have loaded : load (Payload.library (imageOf "Lib" [m] [])).encode =
      loadImage (imageOf "Lib" [m] []) := loadIn_encode .compact "Lib" [m] []
  rw [loaded]
  exact refused

end PluginBuild.Load
