/-
# Proofs.Except -- where a success comes from

What is done to a result succeeds only where the result does, which is how a definition in
`do` notation is taken apart; a list is gone through to the end only where each member succeeds
(`mapM_eq_some_iff`, `filterM_eq_ok_iff`).
-/
namespace PluginBuild

set_option autoImplicit false

variable {ε ε' α β : Type}

@[simp] theorem mapError_ok (f : ε → ε') (a : α) : (Except.ok a).mapError f = .ok a := rfl

@[simp] theorem mapError_error (f : ε → ε') (e : ε) :
    (Except.error e : Except ε α).mapError f = .error (f e) := rfl

theorem mapError_eq_ok_iff {f : ε → ε'} {x : Except ε α} {a : α} :
    x.mapError f = .ok a ↔ x = .ok a := by
  cases x <;> simp

theorem toOption_eq_some_iff {x : Except ε α} {a : α} : x.toOption = some a ↔ x = .ok a := by
  cases x <;> simp [Except.toOption]

theorem map_eq_error_iff {f : α → β} {x : Except ε α} {e : ε} :
    f <$> x = .error e ↔ x = .error e := by
  cases x with
  | error e' => exact ⟨fun same => by cases same; rfl, fun same => by cases same; rfl⟩
  | ok a => exact iff_of_false nofun nofun

theorem exists_of_map_eq_ok {f : α → β} {x : Except ε α} {b : β} (h : f <$> x = .ok b) :
    ∃ a, x = .ok a ∧ f a = b := by
  cases x with
  | error e => cases h
  | ok a =>
      cases h
      exact ⟨a, rfl, rfl⟩

theorem exists_of_bind_eq_ok {x : Except ε α} {f : α → Except ε β} {b : β}
    (h : x >>= f = .ok b) : ∃ a, x = .ok a ∧ f a = .ok b := by
  cases x with
  | error e => cases h
  | ok a => exact ⟨a, rfl, h⟩

theorem bind_eq_error_iff {x : Except ε α} {f : α → Except ε β} {e : ε} :
    x >>= f = .error e ↔ x = .error e ∨ ∃ a, x = .ok a ∧ f a = .error e := by
  cases x with
  | error e' =>
      have same : ((Except.error e' : Except ε α) >>= f) = .error e' := rfl
      simp [same]
  | ok a =>
      have next : ((Except.ok a : Except ε α) >>= f) = f a := rfl
      simp [next]

theorem filterAuxM_eq_ok_iff {f : α → Except ε Bool} {as acc kept : List α} :
    as.filterAuxM f acc = .ok kept ↔ (∀ a ∈ as, ∃ b, f a = .ok b) ∧
      kept = (as.filter fun a => (f a).toOption == some true).reverse ++ acc := by
  induction as generalizing acc with
  | nil => exact ⟨fun h => ⟨List.forall_mem_nil _, (Except.ok.inj h).symm⟩, fun h => h.2 ▸ rfl⟩
  | cons a as ih =>
      rw [List.filterAuxM, List.forall_mem_cons]
      cases answer : f a with
      | error e => exact iff_of_false nofun fun h => h.1.1.elim nofun
      | ok b =>
          have rest : (Except.ok b >>= fun b => as.filterAuxM f (cond b (a :: acc) acc)) =
              as.filterAuxM f (cond b (a :: acc) acc) := rfl
          rw [rest, ih]
          cases b <;> simp [answer, Except.toOption]

/-- A question sorts out a list exactly if it is answered for each member. -/
theorem filterM_eq_ok_iff {f : α → Except ε Bool} {as kept : List α} :
    as.filterM f = .ok kept ↔ (∀ a ∈ as, ∃ b, f a = .ok b) ∧
      kept = as.filter fun a => (f a).toOption == some true := by
  constructor
  · intro sorted
    obtain ⟨all, collected, same⟩ := exists_of_bind_eq_ok sorted
    obtain ⟨answered, rfl⟩ := filterAuxM_eq_ok_iff.1 collected
    cases same
    exact ⟨answered, by rw [List.append_nil, List.reverse_reverse]⟩
  · rintro ⟨answered, rfl⟩
    rw [List.filterM, filterAuxM_eq_ok_iff.2 ⟨answered, rfl⟩, List.append_nil]
    exact congrArg Except.ok (List.reverse_reverse _)

theorem exists_of_filterAuxM_eq_error {f : α → Except ε Bool} {as acc : List α} {e : ε}
    (h : as.filterAuxM f acc = .error e) : ∃ a ∈ as, f a = .error e := by
  induction as generalizing acc with
  | nil => cases h
  | cons a as ih =>
      rw [List.filterAuxM] at h
      cases answer : f a with
      | error e' =>
          rw [answer] at h
          cases h
          exact ⟨a, List.mem_cons_self, answer⟩
      | ok b =>
          rw [answer] at h
          obtain ⟨a', among, refused⟩ := ih h
          exact ⟨a', List.mem_cons_of_mem a among, refused⟩

/-- A question that does not sort out a list has no answer for a member. -/
theorem exists_of_filterM_eq_error {f : α → Except ε Bool} {as : List α} {e : ε}
    (h : as.filterM f = .error e) : ∃ a ∈ as, f a = .error e := by
  rw [List.filterM] at h
  cases all : as.filterAuxM f [] with
  | ok kept =>
      rw [all] at h
      cases h
  | error e' =>
      rw [all] at h
      cases h
      exact exists_of_filterAuxM_eq_error all

/-- A traversal makes the members of a list succeed in order, and nothing else. -/
theorem mapM_eq_some_iff {f : α → Option β} {l : List α} {r : List β} :
    l.mapM f = some r ↔ l.map f = r.map some := by
  induction l generalizing r with
  | nil => cases r <;> simp
  | cons a l ih =>
      rw [List.mapM_cons, List.map_cons]
      constructor
      · intro made
        obtain ⟨b, first, made⟩ := Option.bind_eq_some_iff.1 made
        obtain ⟨bs, rest, made⟩ := Option.bind_eq_some_iff.1 made
        cases made
        rw [first, ih.1 rest, List.map_cons]
      · intro same
        cases r with
        | nil => cases same
        | cons b bs =>
            obtain ⟨first, rest⟩ := List.cons.inj same
            rw [first, ih.2 rest]
            rfl

end PluginBuild
