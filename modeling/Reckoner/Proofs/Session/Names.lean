import Reckoner.Proofs.Assignment.Growth
import Reckoner.Session

/-!
Contract: the names in a session.

Main statement: if a session begins with identifiers only, or with nothing, and
numbers are bound to identifiers only, then all its names stay identifiers, none
is lost, and a text binds one new name at most, the target of a plain marker.

Owns: the names that uses of a session leave.

Does not own: the values of the names.
-/

namespace Reckoner

/-! ### Several texts -/

/-- What the evaluation of every text keeps is kept by that of several. -/
theorem runOn_evaluateAll_induction {motive : Table → Prop}
    (kept : ∀ text {table}, motive table → motive ((evaluate text).runOn table).2)
    (texts : List String) :
    ∀ {table : Table}, motive table → motive ((evaluateAll texts).runOn table).2 := by
  induction texts with
  | nil => exact fun holds => holds
  | cons text rest inductionHypothesis =>
      intro table holds
      rw [evaluateAll_cons]
      split
      · exact inductionHypothesis holds
      · have holdsAfter := kept (Text.trim text) holds
        rw [EvalM.runOn_bind]
        generalize (evaluate (Text.trim text)).runOn table = run at holdsAfter
        obtain ⟨outcome, left⟩ := run
        cases outcome with
        | ok value => exact inductionHypothesis holdsAfter
        | error error => exact holdsAfter

/-! ### Names -/

namespace Table

/-- All names of the table are identifiers. -/
def HasIdentifiers (table : Table) : Prop :=
  ∀ name, table.contains name = true → isIdentifier name.toList = true

theorem hasIdentifiers_empty : HasIdentifiers ∅ := by
  intro name impossible
  cases impossible

theorem HasIdentifiers.set {table : Table} (identifiers : table.HasIdentifiers) {name : String}
    (identifier : isIdentifier name.toList = true) {value : Binary64} :
    (table.set name value).HasIdentifiers := by
  intro other contains
  rcases contains_set.mp contains with rfl | already
  · exact identifier
  · exact identifiers other already

theorem HasIdentifiers.evaluate {table : Table} (identifiers : table.HasIdentifiers)
    (text : String) : ((Reckoner.evaluate text).runOn table).2.HasIdentifiers := by
  intro name contains
  rcases (contains_runOn_evaluate_iff text table name).mp contains with
    already | ⟨cascade, _, innermost, _⟩
  · exact identifiers name already
  · exact cascade.identifiers _ (List.mem_of_getLast? innermost)

end Table

namespace Session

/-- A number from outside takes no name away, and brings its own at most. -/
theorem table_use_setNumber (session : Session) (name : String) (number : Number) :
    (session.use (.setNumber name number)).table = session.table ∨
      ∃ value, (session.use (.setNumber name number)).table = session.table.set name value := by
  rw [use, setNumber, Table.setNumber]
  cases number.toBinary64 with
  | ok value => exact .inr ⟨value, rfl⟩
  | error cause => exact .inl rfl

end Session

/-- A number is bound to an identifier, if the use binds one. -/
def Use.bindsIdentifier : Use → Bool
  | .setNumber name _ => isIdentifier name.toList
  | .evaluate _ | .evaluateAll _ => true

namespace Session

theorem use_hasIdentifiers {session : Session} (identifiers : session.table.HasIdentifiers)
    {further : Use} (named : further.bindsIdentifier = true) :
    (session.use further).table.HasIdentifiers := by
  cases further with
  | setNumber name number =>
      rcases session.table_use_setNumber name number with same | ⟨value, bound⟩
      · rwa [same]
      · rw [bound]
        exact identifiers.set named
  | evaluate text => exact identifiers.evaluate text
  | evaluateAll texts =>
      exact runOn_evaluateAll_induction (fun text _ held => held.evaluate text) texts identifiers

theorem useAll_hasIdentifiers (uses : List Use) :
    ∀ {session : Session}, session.table.HasIdentifiers →
      (∀ further ∈ uses, further.bindsIdentifier = true) →
        (session.useAll uses).table.HasIdentifiers := by
  induction uses with
  | nil => exact fun identifiers _ => identifiers
  | cons first later inductionHypothesis =>
      intro session identifiers named
      rw [List.forall_mem_cons] at named
      exact inductionHypothesis (use_hasIdentifiers identifiers named.1) named.2

theorem contains_use {session : Session} {name : String}
    (bound : session.table.contains name = true) (further : Use) :
    (session.use further).table.contains name = true := by
  have keeps (text : String) {table : Table} (held : table.contains name = true) :
      ((evaluate text).runOn table).2.contains name = true :=
    (contains_runOn_evaluate_iff text table name).mpr (.inl held)
  cases further with
  | setNumber other number =>
      rcases session.table_use_setNumber other number with same | ⟨value, set⟩
      · rwa [same]
      · rw [set]
        exact Table.contains_set.mpr (.inr bound)
  | evaluate text => exact keeps text bound
  | evaluateAll texts =>
      exact runOn_evaluateAll_induction (motive := fun table => table.contains name = true)
        keeps texts bound

end Session

/-- **A session holds identifiers, and each text adds one at most.** Whatever the
uses and whether they fail, the names of a session that began with identifiers are
identifiers, as long as numbers are bound to these only, and a further use loses
none. A text binds a name that was not bound exactly if its words are a cascade,
the innermost stage assigns that name plainly, and the words behind it have a
value; there is at most one such name, and none in a text without a plain marker. -/
theorem Session.names_of_uses (session : Session) (identifiers : session.table.HasIdentifiers)
    (uses : List Use) (named : ∀ further ∈ uses, further.bindsIdentifier = true) :
    let reached := session.useAll uses
    reached.table.HasIdentifiers ∧
      (∀ further name, reached.table.contains name = true →
        (reached.use further).table.contains name = true) ∧
      (∀ text name, reached.table.contains name = false →
        ((reached.use (.evaluate text)).table.contains name = true ↔
          ∃ cascade : Cascade, cascade.words = Text.words text ∧
            cascade.stages.getLast? = some ⟨name, .plain⟩ ∧
            ∃ value left,
              (evaluateWords cascade.source).runOn reached.table = (.ok value, left))) ∧
      (∀ text first second, reached.table.contains first = false →
        reached.table.contains second = false →
        (reached.use (.evaluate text)).table.contains first = true →
        (reached.use (.evaluate text)).table.contains second = true → first = second) ∧
      ∀ text, Marker.plain.spelling ∉ Text.words text →
        (reached.use (.evaluate text)).table.names = reached.table.names := by
  intro reached
  refine ⟨useAll_hasIdentifiers uses identifiers named, ?_, ?_, ?_, ?_⟩
  · exact fun further name bound => contains_use bound further
  · intro text name absent
    have notBefore : ¬ reached.table.contains name = true := by simp [absent]
    exact (contains_runOn_evaluate_iff text reached.table name).trans (or_iff_right notBefore)
  · exact fun text first second absent absentToo => eq_of_newly_bound absent absentToo
  · intro text noPlain
    exact Table.names_eq_of_contains
      (contains_runOn_evaluate_of_no_plain noPlain reached.table)

theorem Session.names_of_uses_that_fail :
    ∃ session : Session, session.table.bindings.map Prod.fst = ["a"] ∧
      session.table.HasIdentifiers ∧
      let reached := session.useAll
        [.evaluate "5++", .setNumber "g" (.double .one), .evaluateAll ["b += c = a / 2", "d = 1"]]
      reached.table.bindings.map Prod.fst = ["a", "g", "c"] ∧ reached.table.HasIdentifiers ∧
        (reached.use (.evaluate "e -= f = c++")).table.bindings.map Prod.fst =
          ["a", "g", "c", "f"] ∧
        ∃ cascade : Cascade, cascade.words = Text.words "e -= f = c++" ∧
          cascade.stages.getLast? = some ⟨"f", .plain⟩ ∧
          ∃ value left,
            (evaluateWords cascade.source).runOn reached.table = (.ok value, left) := by
  let session : Session := { table := (∅ : Table).set "a" .one }
  let uses : List Use :=
    [.evaluate "5++", .setNumber "g" (.double .one), .evaluateAll ["b += c = a / 2", "d = 1"]]
  have identifiers : session.table.HasIdentifiers := Table.hasIdentifiers_empty.set (by decide)
  obtain ⟨stillIdentifiers, _, binds, _⟩ :=
    names_of_uses session identifiers uses (by decide +kernel)
  have bound :
      ((session.useAll uses).use (.evaluate "e -= f = c++")).table.contains "f" = true := by
    decide +kernel
  exact ⟨session, by decide +kernel, identifiers, by decide +kernel, stillIdentifiers,
    by decide +kernel, (binds _ _ (by decide +kernel)).mp bound⟩

end Reckoner
