import Reckoner.Proofs.Evaluation.Journal
import Reckoner.Proofs.Report.Agreement
import Reckoner.Session

/-!
Contract: a session shows what was stored in it last.

A session begins with numbers, and is then used to bind numbers and to evaluate
texts; some of these uses fail. Main statement: after any history all
views of the table show the same names, each once and in ascending order, with
the value last stored under each; and other tables that hold these values, by
whatever history, show the same.

Owns: the stores of a history, and the table that a history leaves.

Does not own: the stores of an evaluation.
-/

namespace Reckoner

/-- The store of a number under a name, unless the number is refused. -/
def Number.stores (name : String) (number : Number) : List (String × Binary64) :=
  match number.toBinary64 with
  | .ok value => [(name, value)]
  | .error _ => []

def Use.stores (table : Table) : Use → List (String × Binary64)
  | .setNumber name number => number.stores name
  | .evaluate text => Text.stores text table
  | .evaluateAll texts => storesOfTexts texts table

/-- The stores of the mapping that a session begins with. -/
def storesOfSeeds (seeds : List (String × Number)) : List (String × Binary64) :=
  (Pairs.lastValues seeds).flatMap fun (name, number) => number.stores name

namespace Session

/-- The stores of uses, one after the other. -/
def stores (session : Session) : List Use → List (String × Binary64)
  | [] => []
  | first :: later => first.stores session.table ++ (session.use first).stores later

end Session

/-! ### The table that is left -/

theorem Table.storeAll_of_setNumber {table bound : Table} {name : String} {number : Number}
    (binds : table.setNumber name number = .ok bound) :
    bound = table.storeAll (number.stores name) := by
  rw [setNumber] at binds
  rw [Number.stores]
  cases converted : number.toBinary64 with
  | ok value =>
      rw [converted] at binds
      cases binds
      rfl
  | error cause =>
      rw [converted] at binds
      cases binds

namespace Session

theorem table_use (session : Session) (first : Use) :
    (session.use first).table = session.table.storeAll (first.stores session.table) := by
  cases first with
  | setNumber name number =>
      rw [use, Use.stores, Number.stores, setNumber, Table.setNumber]
      cases number.toBinary64 with
      | ok value => rfl
      | error cause => rfl
  | evaluate text => exact runOn_evaluate_snd text session.table
  | evaluateAll texts => exact runOn_evaluateAll_snd texts session.table

theorem table_useAll (uses : List Use) :
    ∀ session : Session,
      (session.useAll uses).table = session.table.storeAll (session.stores uses) := by
  induction uses with
  | nil => exact fun session => rfl
  | cons first later inductionHypothesis =>
      intro session
      have used : session.useAll (first :: later) = (session.use first).useAll later := rfl
      rw [used, inductionHypothesis, table_use, stores, Table.storeAll_append]

end Session

private theorem Table.storeAll_of_foldlM (pairs : List (String × Number)) :
    ∀ {table left : Table},
      pairs.foldlM (fun table (name, number) => table.setNumber name number) table = .ok left →
        left = table.storeAll (pairs.flatMap fun (name, number) => number.stores name) := by
  induction pairs with
  | nil =>
      intro table left bound
      cases bound
      rfl
  | cons pair later inductionHypothesis =>
      obtain ⟨name, number⟩ := pair
      intro table left bound
      rw [List.foldlM_cons] at bound
      dsimp only at bound
      cases first : table.setNumber name number with
      | ok between =>
          rw [first] at bound
          rw [List.flatMap_cons, storeAll_append, ← storeAll_of_setNumber first]
          exact inductionHypothesis bound
      | error cause =>
          rw [first] at bound
          cases bound

theorem Session.table_ofNumbers {seeds : List (String × Number)} {started : Session}
    (begins : ofNumbers seeds = .ok started) :
    started.table = (∅ : Table).storeAll (storesOfSeeds seeds) := by
  rw [ofNumbers] at begins
  cases seeded : Table.ofNumbers seeds with
  | ok table =>
      rw [seeded] at begins
      cases begins
      exact Table.storeAll_of_foldlM _ seeded
  | error cause =>
      rw [seeded] at begins
      cases begins

/-- A table shows the value last stored under each name. -/
theorem Session.get?_useAll {seeds : List (String × Number)} {started : Session}
    (begins : ofNumbers seeds = .ok started) (uses : List Use) (name : String) :
    (started.useAll uses).table.get? name =
      (storesOfSeeds seeds ++ started.stores uses).reverse.lookup name := by
  rw [table_useAll, table_ofNumbers begins, ← Table.storeAll_append, Table.get?_storeAll,
    Table.get?_empty, Option.or_none]

/-! ### What is shown -/

/-- **A session shows what was stored in it last.** After any history, all views
of its table show the same entries: each bound name once, in strictly ascending
order, with the value that a look-up finds, which is the last one stored under
the name. Every other table with the same look-ups has the same views and texts. -/
theorem Session.shows_last_stores (seeds : List (String × Number)) (uses : List Use)
    (started : Session) (begins : ofNumbers seeds = .ok started) :
    let table := (started.useAll uses).table
    let stored := storesOfSeeds seeds ++ started.stores uses
    ∃ entries, table.Shows entries ∧
      (entries.map Prod.fst).Pairwise (· < ·) ∧ (entries.map Prod.fst).Nodup ∧
      entries.length = table.size ∧
      (∀ name, name ∈ entries.map Prod.fst ↔ table.contains name = true) ∧
      (∀ name column, name ∈ entries.map Prod.fst ↔
        ∃ value, (lookUp name column).runOn table = (.ok value, table)) ∧
      (∀ name value column, (name, value) ∈ entries ↔
        (lookUp name column).runOn table = (.ok value, table)) ∧
      (∀ name value, (name, value) ∈ entries ↔ stored.reverse.lookup name = some value) ∧
      ∀ other : Table, (∀ name, other.get? name = table.get? name) →
        other.Shows entries ∧ other.size = table.size ∧ other.summary = table.summary ∧
          other.csv = table.csv ∧ other.display = table.display := by
  intro table stored
  have listed (name : String) : name ∈ table.items.map Prod.fst ↔ table.contains name = true :=
    Table.mem_names_iff
  refine ⟨table.items, table.shows_items, table.names_ascending, table.names_ascending.nodup,
    table.length_items, listed, ?_, ?_, ?_, fun other => Table.shows_of_get?⟩
  · intro name column
    rw [listed, Table.contains_iff]
    exact exists_congr fun value => (runOn_lookUp_eq_ok_iff.trans (and_iff_left rfl)).symm
  · intro name value column
    rw [Table.mem_items_iff, runOn_lookUp_eq_ok_iff, and_iff_left rfl]
  · intro name value
    rw [Table.mem_items_iff, get?_useAll begins]

/-- A number and two texts are refused on the way, and one name is stored twice. -/
theorem Session.shows_last_stores_after_failures :
    ∃ seeds uses started, ofNumbers seeds = .ok started ∧
      storesOfSeeds seeds ++ started.stores uses =
        [("b", .ofNat 2), ("ä", .nan), ("b", .ofNat 3), ("a", .ofNat 6), ("c", .one)] ∧
      ∃ entries, (started.useAll uses).table.Shows entries ∧
        (entries.map Prod.fst).Pairwise (· < ·) ∧ entries.length = 4 ∧
        ("b", .ofNat 3) ∈ entries ∧ ("ä", .nan) ∈ entries := by
  let seeds : List (String × Number) := [("b", .integer 2), ("ä", .double .nan)]
  let uses : List Use :=
    [.evaluate "a = b++ * 3", .setNumber "b" (.integer (2 ^ 1024 : Nat)),
      .evaluate "b = a % ( b - b )", .evaluate "d -= 1", .setNumber "c" (.integer 1)]
  let started : Session := { table := ((∅ : Table).set "b" (.ofNat 2)).set "ä" .nan }
  have begins : ofNumbers seeds = .ok started := by decide +kernel
  have stored : storesOfSeeds seeds ++ started.stores uses =
      [("b", .ofNat 2), ("ä", .nan), ("b", .ofNat 3), ("a", .ofNat 6), ("c", .one)] := by
    decide +kernel
  obtain ⟨entries, shown, ascending, _, length, _, _, _, last, _⟩ :=
    shows_last_stores seeds uses started begins
  rw [stored] at last
  refine ⟨seeds, uses, started, begins, stored, entries, shown, ascending, ?_,
    (last _ _).mpr rfl, (last _ _).mpr rfl⟩
  rw [length]
  decide +kernel

end Reckoner
