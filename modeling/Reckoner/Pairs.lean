/-!
Contract: lists of named values in which each name stands once.

Such a list is a finite mapping that remembers the order in which its names
were first bound.

Owns: binding a name, merging repeated names, the view sorted by name, and the
laws of these for keys and for look-up.

Does not own: what the values are.
-/

namespace Reckoner.Pairs

/-- Binds a name: in its place where it is present, else at the end. -/
def put {α : Type} (name : String) (value : α) :
    List (String × α) → List (String × α)
  | [] => [(name, value)]
  | (other, old) :: rest =>
      if other = name then (name, value) :: rest
      else (other, old) :: put name value rest

/-- The pairs with the last value of each repeated name, in the place of the first. -/
def lastValues {α : Type} (pairs : List (String × α)) : List (String × α) :=
  pairs.foldl (fun merged (name, value) => put name value merged) []

/-- The pairs in ascending order of their names, by code points. -/
def sorted {α : Type} (pairs : List (String × α)) : List (String × α) :=
  pairs.mergeSort fun left right => decide (left.1 ≤ right.1)

/-! ### Keys -/

theorem map_fst_put {α : Type} (name : String) (value : α)
    (pairs : List (String × α)) :
    (put name value pairs).map Prod.fst =
      if name ∈ pairs.map Prod.fst then pairs.map Prod.fst
      else pairs.map Prod.fst ++ [name] := by
  induction pairs with
  | nil => simp [put]
  | cons pair rest inductionHypothesis =>
      obtain ⟨other, old⟩ := pair
      by_cases same : other = name
      · simp [put, same]
      · have different : ¬ name = other := fun equal => same equal.symm
        by_cases present : name ∈ rest.map Prod.fst
        · simp only [put, if_neg same, List.map_cons, inductionHypothesis, if_pos present]
          rw [if_pos (List.mem_cons_of_mem _ present)]
        · simp only [put, if_neg same, List.map_cons, inductionHypothesis,
            if_neg present]
          rw [if_neg]
          · rfl
          · simp only [List.mem_cons, not_or]
            exact ⟨different, present⟩

theorem nodup_put {α : Type} {name : String} {value : α}
    {pairs : List (String × α)} (distinct : (pairs.map Prod.fst).Nodup) :
    ((put name value pairs).map Prod.fst).Nodup := by
  rw [map_fst_put]
  split
  · exact distinct
  · rename_i absent
    rw [List.nodup_append]
    refine ⟨distinct, by simp, ?_⟩
    intro member isMember last isLast equal
    rw [List.mem_singleton] at isLast
    exact absent (isLast ▸ equal ▸ isMember)

theorem nodup_lastValues {α : Type} (pairs : List (String × α)) :
    ((lastValues pairs).map Prod.fst).Nodup := by
  have merging (merged : List (String × α)) (distinct : (merged.map Prod.fst).Nodup) :
      ((pairs.foldl (fun merged (name, value) => put name value merged) merged).map
        Prod.fst).Nodup := by
    induction pairs generalizing merged with
    | nil => exact distinct
    | cons pair rest inductionHypothesis => exact inductionHypothesis _ (nodup_put distinct)
  exact merging [] (by simp)

/-! ### Look-up -/

theorem lookup_cons_self {α : Type} (name : String) (value : α) (pairs : List (String × α)) :
    ((name, value) :: pairs).lookup name = some value := by
  simp

theorem lookup_cons_of_ne {α : Type} {name other : String} (different : other ≠ name)
    (value : α) (pairs : List (String × α)) :
    ((name, value) :: pairs).lookup other = pairs.lookup other := by
  rw [List.lookup_cons, beq_false_of_ne different]

theorem lookup_put {α : Type} (name other : String) (value : α)
    (pairs : List (String × α)) :
    (put name value pairs).lookup other =
      if other = name then some value else pairs.lookup other := by
  induction pairs with
  | nil =>
      by_cases same : other = name
      · rw [put, same, lookup_cons_self, if_pos rfl]
      · rw [put, lookup_cons_of_ne same, if_neg same]
  | cons pair rest inductionHypothesis =>
      obtain ⟨first, old⟩ := pair
      by_cases replaced : first = name
      · subst replaced
        rw [put, if_pos rfl]
        by_cases same : other = first
        · rw [same, lookup_cons_self, if_pos rfl]
        · rw [lookup_cons_of_ne same, lookup_cons_of_ne same, if_neg same]
      · rw [put, if_neg replaced]
        by_cases found : other = first
        · rw [found, lookup_cons_self, lookup_cons_self, if_neg replaced]
        · rw [lookup_cons_of_ne found, lookup_cons_of_ne found, inductionHypothesis]

theorem mem_iff_lookup_eq_some {α : Type} {name : String} {value : α}
    {pairs : List (String × α)} (distinct : (pairs.map Prod.fst).Nodup) :
    (name, value) ∈ pairs ↔ pairs.lookup name = some value := by
  induction pairs with
  | nil => simp
  | cons pair rest inductionHypothesis =>
      obtain ⟨first, old⟩ := pair
      rw [List.map_cons, List.nodup_cons] at distinct
      by_cases found : name = first
      · subst found
        have absent : (name, value) ∉ rest := fun present =>
          distinct.1 (List.mem_map.2 ⟨(name, value), present, rfl⟩)
        rw [lookup_cons_self]
        simp [absent, eq_comm]
      · rw [lookup_cons_of_ne found, ← inductionHypothesis distinct.2]
        simp [found]

/-! ### The sorted view -/

theorem sorted_perm {α : Type} (pairs : List (String × α)) : (sorted pairs).Perm pairs :=
  List.mergeSort_perm _ _

/-- The sorted view of distinct names ascends strictly. -/
theorem sorted_ascending {α : Type} {pairs : List (String × α)}
    (distinct : (pairs.map Prod.fst).Nodup) :
    ((sorted pairs).map Prod.fst).Pairwise (· < ·) := by
  have ordered :
      (sorted pairs).Pairwise fun left right => decide (left.1 ≤ right.1) = true :=
    List.pairwise_mergeSort
      (fun first second third firstLe secondLe => by
        simp only [decide_eq_true_eq] at firstLe secondLe ⊢
        exact String.le_trans firstLe secondLe)
      (fun first second => by
        simp only [Bool.or_eq_true, decide_eq_true_eq]
        exact String.le_total first.1 second.1)
      pairs
  have ascending : ((sorted pairs).map Prod.fst).Pairwise (· ≤ ·) := by
    rw [List.pairwise_map]
    exact ordered.imp (by simp)
  have stillDistinct : ((sorted pairs).map Prod.fst).Nodup :=
    ((sorted_perm pairs).map Prod.fst).nodup_iff.2 distinct
  exact (ascending.and stillDistinct).imp fun ⟨atMost, different⟩ =>
    Decidable.byContradiction fun notBelow => different (String.le_antisymm atMost notBelow)

end Reckoner.Pairs
