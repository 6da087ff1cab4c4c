/-
# Keyed -- values under keys, in order of first insertion

A value put under a key that is there already takes the place of the old one;
under a new key it comes last.
-/
namespace PluginBuild.Keyed

set_option autoImplicit false

variable {α : Type}

/-- Puts a value under a key. -/
def put (key : String) (value : α) : List (String × α) → List (String × α)
  | [] => [(key, value)]
  | (other, old) :: rest =>
    if other = key then (key, value) :: rest else (other, old) :: put key value rest

theorem lookup_put_self (key : String) (value : α) (l : List (String × α)) :
    (put key value l).lookup key = some value := by
  induction l with
  | nil => simp [put]
  | cons head rest ih =>
    obtain ⟨other, old⟩ := head
    by_cases h : other = key
    · simp [put, h]
    · simp [put, h, List.lookup_cons, ih, beq_false_of_ne (Ne.symm h)]

theorem lookup_put_of_ne {key name : String} (h : name ≠ key) (value : α)
    (l : List (String × α)) : (put key value l).lookup name = l.lookup name := by
  induction l with
  | nil => simp [put, List.lookup_cons, beq_false_of_ne h]
  | cons head rest ih =>
    obtain ⟨other, old⟩ := head
    by_cases same : other = key
    · simp [put, same, List.lookup_cons, beq_false_of_ne h]
    · simp [put, same, List.lookup_cons, ih]

/-- A value under a key that is there already changes no key. -/
theorem keys_put {key : String} {l : List (String × α)} (h : (l.lookup key).isSome = true)
    (value : α) : (put key value l).map Prod.fst = l.map Prod.fst := by
  induction l with
  | nil => simp at h
  | cons head rest ih =>
    obtain ⟨other, old⟩ := head
    by_cases same : other = key
    · simp [put, same]
    · rw [List.lookup_cons, beq_false_of_ne (Ne.symm same)] at h
      simp [put, same, ih h]

theorem put_of_not_mem {key : String} {l : List (String × α)} (h : key ∉ l.map Prod.fst)
    (value : α) : put key value l = l ++ [(key, value)] := by
  induction l with
  | nil => rfl
  | cons head rest ih =>
    obtain ⟨other, old⟩ := head
    simp only [List.map_cons, List.mem_cons, not_or] at h
    obtain ⟨first, others⟩ := h
    simp [put, Ne.symm first, ih others]

end PluginBuild.Keyed
