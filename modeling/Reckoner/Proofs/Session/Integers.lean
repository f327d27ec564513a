import Mathlib.Data.List.Induction
import Reckoner.Proofs.Binary64.Integer
import Reckoner.Proofs.Session.History

/-!
Contract: integers that are bound in a session.

An integer is converted before anything is bound, so a refusal leaves the session as
it was, whether or not the name has a value. Main statement: an integer of any size
is refused exactly if its absolute value is `2 ^ 1024 - 2 ^ 970` or more; otherwise
its nearest double is bound, and nothing else changes. A mapping of integers is
refused exactly if it holds such an integer, and else all its names are bound.

Owns: the conversion of a number, what one binding does to a session, and the
session that a mapping begins.

Does not own: which double is the nearest.
-/

namespace Reckoner

/-! ### Conversion -/

namespace Number

/-- An integer is converted to its double, or refused where it has none. -/
theorem toBinary64_integer (value : ℤ) :
    (integer value).toBinary64 =
      (Binary64.ofInt? value).elim (.error .integerTooLarge) .ok := by
  -- The conversion of integers stands behind a name, so that no check evaluates it.
  have opened : toBinary64 = toBinary64 := rfl
  conv at opened => rhs; delta toBinary64
  obtain ⟨convert, same⟩ : ∃ convert, convert = Binary64.ofInt? := ⟨_, rfl⟩
  rw [opened, ← same]
  dsimp only
  cases convert value with
  | none => rfl
  | some nearest => rfl

variable {value : ℤ}

theorem toBinary64_of_large (large : 2 ^ 1024 - 2 ^ 970 ≤ |value|) :
    (integer value).toBinary64 = .error .integerTooLarge := by
  rw [toBinary64_integer, Binary64.ofInt?_eq_none large, Option.elim_none]

theorem toBinary64_of_small (small : |value| < 2 ^ 1024 - 2 ^ 970) :
    ∃ nearest : Binary64, nearest.IsNearest value ∧ (integer value).toBinary64 = .ok nearest := by
  obtain ⟨nearest, isNearest, converted⟩ := Binary64.exists_isNearest small
  refine ⟨nearest, isNearest, ?_⟩
  rw [toBinary64_integer, converted, Option.elim_some]

theorem exists_toBinary64_eq_ok_iff :
    (∃ nearest, (integer value).toBinary64 = .ok nearest) ↔ |value| < 2 ^ 1024 - 2 ^ 970 := by
  constructor
  · rintro ⟨nearest, converted⟩
    refine lt_of_not_ge fun large => ?_
    rw [toBinary64_of_large large] at converted
    cases converted
  · intro small
    obtain ⟨nearest, _, converted⟩ := toBinary64_of_small small
    exact ⟨nearest, converted⟩

end Number

/-! ### One binding -/

namespace Session

variable {name : String} {number : Number} {value : Binary64} {cause : NumberError}

private theorem setNumber_of_ok (session : Session) (converted : number.toBinary64 = .ok value) :
    session.setNumber name number = .ok { session with table := session.table.set name value } := by
  rw [setNumber, Table.setNumber, converted]
  rfl

private theorem setNumber_of_error (session : Session)
    (refused : number.toBinary64 = .error cause) :
    session.setNumber name number = .error cause := by
  rw [setNumber, Table.setNumber, refused]
  rfl

private theorem use_of_setNumber_eq_ok {session bound : Session}
    (binds : session.setNumber name number = .ok bound) :
    session.use (.setNumber name number) = bound := by
  rw [use, binds]

/-- A number that is refused leaves the session as it was. -/
theorem use_of_setNumber_eq_error {session : Session}
    (refuses : session.setNumber name number = .error cause) :
    session.use (.setNumber name number) = session := by
  rw [use, refuses]

end Session

/-! ### Mappings -/

namespace Pairs

variable {α β : Type}

/-- In merged pairs each name has the last of its values. -/
theorem lookup_lastValues (name : String) (pairs : List (String × α)) :
    (lastValues pairs).lookup name = pairs.reverse.lookup name := by
  induction pairs using List.reverseRecOn with
  | nil => rfl
  | append_singleton pairs last inductionHypothesis =>
      obtain ⟨other, value⟩ := last
      have merged :
          lastValues (pairs ++ [(other, value)]) = put other value (lastValues pairs) := by
        rw [lastValues, List.foldl_append]
        rfl
      rw [merged, lookup_put, inductionHypothesis, List.reverse_append, List.reverse_singleton,
        List.singleton_append]
      by_cases same : name = other
      · rw [if_pos same, same, lookup_cons_self]
      · rw [if_neg same, lookup_cons_of_ne same]

private theorem lookup_map (change : α → β) (name : String) (pairs : List (String × α)) :
    (pairs.map fun (other, value) => (other, change value)).lookup name =
      (pairs.lookup name).map change := by
  induction pairs with
  | nil => rfl
  | cons pair rest inductionHypothesis =>
      obtain ⟨other, value⟩ := pair
      rw [List.map_cons]
      dsimp only
      by_cases same : name = other
      · rw [same, lookup_cons_self, lookup_cons_self, Option.map_some]
      · rw [lookup_cons_of_ne same, lookup_cons_of_ne same, inductionHypothesis]

private theorem isSome_lookup_iff {name : String} {pairs : List (String × α)} :
    (pairs.lookup name).isSome = true ↔ name ∈ pairs.map Prod.fst := by
  rw [List.lookup_isSome_iff, List.mem_map]
  exact exists_congr fun pair => and_congr_right fun _ => by rw [beq_iff_eq, eq_comm]

end Pairs

namespace Table

/-- Numbers are bound one after the other exactly if each of them is converted. -/
theorem exists_foldlM_setNumber_iff (pairs : List (String × Number)) :
    ∀ table : Table,
      (∃ left, pairs.foldlM (fun table (name, number) => table.setNumber name number) table =
        .ok left) ↔ ∀ pair ∈ pairs, ∃ value, pair.2.toBinary64 = .ok value := by
  induction pairs with
  | nil => exact fun table => ⟨fun _ => List.forall_mem_nil _, fun _ => ⟨table, rfl⟩⟩
  | cons pair rest inductionHypothesis =>
      obtain ⟨name, number⟩ := pair
      intro table
      rw [List.foldlM_cons, List.forall_mem_cons]
      dsimp only
      rw [setNumber]
      cases number.toBinary64 with
      | ok value =>
          have others := inductionHypothesis (table.set name value)
          exact others.trans (and_iff_right ⟨value, rfl⟩).symm
      | error cause =>
          constructor
          · rintro ⟨_, impossible⟩
            cases impossible
          · rintro ⟨⟨_, impossible⟩, _⟩
            cases impossible

/-- Under names of their own, each name has its number afterwards, and any other name
what it had before. -/
theorem get?_of_foldlM_setNumber (name : String) {pairs : List (String × Number)} :
    ∀ {table left : Table}, (pairs.map Prod.fst).Nodup →
      pairs.foldlM (fun table (name, number) => table.setNumber name number) table = .ok left →
        pairs.lookup name = none ∧ left.get? name = table.get? name ∨
          ∃ number value, pairs.lookup name = some number ∧ number.toBinary64 = .ok value ∧
            left.get? name = some value := by
  induction pairs with
  | nil =>
      intro table left _ bound
      cases bound
      exact .inl ⟨rfl, rfl⟩
  | cons pair rest inductionHypothesis =>
      obtain ⟨other, number⟩ := pair
      intro table left distinct bound
      rw [List.map_cons, List.nodup_cons] at distinct
      rw [List.foldlM_cons] at bound
      dsimp only at bound
      rw [setNumber] at bound
      cases converted : number.toBinary64 with
      | error cause =>
          rw [converted] at bound
          cases bound
      | ok value =>
          rw [converted] at bound
          have later := inductionHypothesis distinct.2 bound
          by_cases same : name = other
          · -- The name does not come again, so it keeps the number that it has now.
            subst same
            have absent : rest.lookup name = none := by
              rw [← Option.not_isSome_iff_eq_none, Pairs.isSome_lookup_iff]
              exact distinct.1
            rw [absent, get?_set_self] at later
            rcases later with ⟨_, kept⟩ | ⟨_, _, impossible, _⟩
            · exact .inr ⟨number, value, Pairs.lookup_cons_self .., converted, kept⟩
            · cases impossible
          · rw [get?_set_of_ne same] at later
            rwa [Pairs.lookup_cons_of_ne same]

end Table

namespace Session

variable {seeds : List (String × Number)} {mapping : List (String × ℤ)}

theorem ofNumbers_eq_ok_iff {started : Session} :
    ofNumbers seeds = .ok started ↔
      ∃ table, Table.ofNumbers seeds = .ok table ∧ started = { table } := by
  rw [ofNumbers]
  cases Table.ofNumbers seeds with
  | ok table =>
      constructor
      · intro begins
        exact ⟨table, rfl, (Except.ok.inj begins).symm⟩
      · rintro ⟨_, bound, rfl⟩
        cases bound
        rfl
  | error cause =>
      constructor
      · intro impossible
        cases impossible
      · rintro ⟨_, impossible, _⟩
        cases impossible

/-- The numbers of a mapping of integers. -/
def integers (mapping : List (String × ℤ)) : List (String × Number) :=
  mapping.map fun (name, value) => (name, .integer value)

private theorem lookup_lastValues_integers (name : String) :
    (Pairs.lastValues (integers mapping)).lookup name =
      (mapping.reverse.lookup name).map Number.integer := by
  rw [Pairs.lookup_lastValues, integers, ← List.map_reverse, Pairs.lookup_map]

/-- A mapping of integers begins a session exactly if the last integer of each name is
below the limit. -/
theorem exists_ofNumbers_integers_iff :
    (∃ started, ofNumbers (integers mapping) = .ok started) ↔
      ∀ name value, mapping.reverse.lookup name = some value →
        |value| < 2 ^ 1024 - 2 ^ 970 := by
  have begins : (∃ started, ofNumbers (integers mapping) = .ok started) ↔
      ∃ table, Table.ofNumbers (integers mapping) = .ok table := by
    constructor
    · rintro ⟨started, begins⟩
      obtain ⟨table, bound, _⟩ := ofNumbers_eq_ok_iff.mp begins
      exact ⟨table, bound⟩
    · rintro ⟨table, bound⟩
      exact ⟨_, ofNumbers_eq_ok_iff.mpr ⟨table, bound, rfl⟩⟩
  rw [begins, Table.ofNumbers, Table.exists_foldlM_setNumber_iff]
  have distinct := Pairs.nodup_lastValues (integers mapping)
  constructor
  · intro converted name value last
    have member : (name, Number.integer value) ∈ Pairs.lastValues (integers mapping) := by
      rw [Pairs.mem_iff_lookup_eq_some distinct, lookup_lastValues_integers, last, Option.map_some]
    exact Number.exists_toBinary64_eq_ok_iff.mp (converted _ member)
  · rintro small ⟨name, number⟩ member
    rw [Pairs.mem_iff_lookup_eq_some distinct, lookup_lastValues_integers,
      Option.map_eq_some_iff] at member
    obtain ⟨value, last, rfl⟩ := member
    exact Number.exists_toBinary64_eq_ok_iff.mpr (small name value last)

/-- It then binds the nearest double of the last integer of each name, and no other name. -/
theorem get?_ofNumbers_integers {started : Session}
    (begins : ofNumbers (integers mapping) = .ok started) (name : String) :
    mapping.reverse.lookup name = none ∧ started.table.get? name = none ∨
      ∃ value nearest, mapping.reverse.lookup name = some value ∧
        Binary64.IsNearest nearest value ∧ started.table.get? name = some nearest := by
  obtain ⟨table, bound, rfl⟩ := ofNumbers_eq_ok_iff.mp begins
  rcases Table.get?_of_foldlM_setNumber name (Pairs.nodup_lastValues (integers mapping)) bound with
    ⟨absent, kept⟩ | ⟨number, stored, last, converted, isStored⟩
  · rw [lookup_lastValues_integers, Option.map_eq_none_iff] at absent
    exact .inl ⟨absent, kept⟩
  · rw [lookup_lastValues_integers, Option.map_eq_some_iff] at last
    obtain ⟨value, last, rfl⟩ := last
    have small := Number.exists_toBinary64_eq_ok_iff.mp ⟨stored, converted⟩
    obtain ⟨nearest, isNearest, alsoConverted⟩ := Number.toBinary64_of_small small
    rw [converted] at alsoConverted
    cases alsoConverted
    exact .inr ⟨value, stored, last, isNearest, isStored⟩

theorem contains_ofNumbers_integers_iff {started : Session}
    (begins : ofNumbers (integers mapping) = .ok started) (name : String) :
    started.table.contains name = true ↔ name ∈ mapping.map Prod.fst := by
  rw [← List.mem_reverse, ← List.map_reverse, ← Pairs.isSome_lookup_iff, Table.contains]
  rcases get?_ofNumbers_integers begins name with
    ⟨absent, unbound⟩ | ⟨value, nearest, last, _, bound⟩
  · rw [absent, unbound]
    exact Iff.rfl
  · rw [last, bound]
    exact Iff.rfl

/-! ### The limit -/

/-- An integer that is not refused is bound as its nearest double. -/
theorem exists_setNumber_integer (session : Session) (name : String) {value : ℤ}
    (small : |value| < 2 ^ 1024 - 2 ^ 970) :
    ∃ bound nearest, session.setNumber name (.integer value) = .ok bound ∧
      Binary64.IsNearest nearest value ∧ bound.table.get? name = some nearest ∧
      (∀ other, other ≠ name → bound.table.get? other = session.table.get? other) ∧
      bound.watched = session.watched := by
  obtain ⟨nearest, isNearest, converted⟩ := Number.toBinary64_of_small small
  exact ⟨_, nearest, session.setNumber_of_ok converted, isNearest, Table.get?_set_self,
    fun _ different => Table.get?_set_of_ne different, rfl⟩

/-- **Integers below the limit become their nearest doubles, and all others are
refused.** Whatever a session holds, an integer is refused exactly if its absolute
value is the largest double and half a step more, or even larger, and then the
session stays as it is. Otherwise its name is bound to the one double that is nearest
to it, ties to even, and all other names keep their values. A mapping of integers
begins a session exactly if no name has such an integer, and binds exactly its names. -/
theorem binds_nearest_doubles (session : Session) (name : String) (value : ℤ)
    (mapping : List (String × ℤ)) :
    let limit : ℤ := 2 ^ 1024 - 2 ^ 970
    let left := session.use (.setNumber name (.integer value))
    (session.setNumber name (.integer value) = .error .integerTooLarge ↔ limit ≤ |value|) ∧
    (limit ≤ |value| → left = session) ∧
    (|value| < limit → ∃ nearest, session.setNumber name (.integer value) = .ok left ∧
      Binary64.IsNearest nearest value ∧
      (∀ other, Binary64.IsNearest other value → other = nearest) ∧
      left.table.get? name = some nearest ∧
      (∀ other, other ≠ name → left.table.get? other = session.table.get? other) ∧
      left.watched = session.watched) ∧
    ((∃ started, ofNumbers (integers mapping) = .ok started) ↔
      ∀ name value, mapping.reverse.lookup name = some value → |value| < limit) ∧
    ∀ started, ofNumbers (integers mapping) = .ok started →
      (∀ name, started.table.contains name = true ↔ name ∈ mapping.map Prod.fst) ∧
      ∀ name value, mapping.reverse.lookup name = some value →
        ∃ nearest, Binary64.IsNearest nearest value ∧ started.table.get? name = some nearest := by
  intro limit left
  have refuses : session.setNumber name (.integer value) = .error .integerTooLarge ↔
      limit ≤ |value| := by
    constructor
    · refine fun refused => le_of_not_gt fun small => ?_
      obtain ⟨bound, _, binds, _⟩ := session.exists_setNumber_integer name small
      rw [binds] at refused
      cases refused
    · exact fun large => session.setNumber_of_error (Number.toBinary64_of_large large)
  refine ⟨refuses, fun large => use_of_setNumber_eq_error (refuses.mpr large), ?_,
    exists_ofNumbers_integers_iff, ?_⟩
  · intro small
    obtain ⟨bound, nearest, binds, isNearest, isBound, others, watched⟩ :=
      session.exists_setNumber_integer name small
    have same : left = bound := use_of_setNumber_eq_ok binds
    rw [same]
    exact ⟨nearest, binds, isNearest, fun other isOther => isOther.unique isNearest, isBound,
      others, watched⟩
  · intro started begins
    refine ⟨contains_ofNumbers_integers_iff begins, fun name value last => ?_⟩
    rcases get?_ofNumbers_integers begins name with ⟨absent, _⟩ | ⟨_, nearest, alsoLast, found⟩
    · rw [absent] at last
      cases last
    · rw [alsoLast] at last
      cases last
      exact ⟨nearest, found⟩

end Session

end Reckoner
