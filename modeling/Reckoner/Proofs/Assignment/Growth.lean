import Reckoner.Proofs.Assignment.Cascade
import Reckoner.Proofs.Evaluation.Effect

/-!
Contract: which names an evaluation binds.

A step and a compound marker ask for a variable before they change it, so they
bind no name that was not bound before. Only a plain marker does, and a plain
marker stands last in its cascade, because no marker has a higher rank. What it
binds stays bound, also where an outer stage fails.

Owns: the names that a statement and a text leave bound.

Does not own: their values.
-/

namespace Reckoner

variable {table left : Table} {name : String}

/-! ### Assignments -/

theorem contains_runOn_evaluateWords (words : List String) (table : Table) (name : String) :
    ((evaluateWords words).runOn table).2.contains name = table.contains name :=
  (steppedBy_runOn_evaluateWords words table).contains_eq name

theorem Table.contains_set {value : Binary64} {other : String} :
    (table.set name value).contains other = true ↔ other = name ∨ table.contains other = true := by
  rw [contains, get?_set]
  by_cases same : other = name
  · simp [same]
  · simp [same, contains]

/-- Combining leaves the table as it is. -/
theorem Marker.runOn_combine_snd (marker : Marker) (target : String) (value : Binary64)
    (table : Table) : ((marker.combine target value).runOn table).2 = table := by
  cases marker with
  | plain => rfl
  | compound operator =>
      rw [combine, EvalM.runOn_bind, runOn_lookUp]
      cases table.get? target with
      | none => rfl
      | some current => rfl

/-- A compound marker has no value for a target that is not bound. -/
theorem Marker.contains_of_runOn_combine {operator : Operator} {target : String}
    {value result : Binary64}
    (combined : ((Marker.compound operator).combine target value).runOn table =
      (.ok result, left)) : table.contains target = true := by
  rw [combine, EvalM.runOn_bind, runOn_lookUp] at combined
  cases bound : table.get? target with
  | none =>
      rw [bound] at combined
      cases combined
  | some current => exact Table.contains_iff.mpr ⟨current, bound⟩

/-- A compound assignment binds no name that its source has not bound. -/
theorem contains_runOn_execute_compound (target : String) (operator : Operator)
    (source : Statement) (table : Table) (name : String) :
    ((Statement.assignment target (.compound operator) source).execute.runOn table).2.contains
        name = (source.execute.runOn table).2.contains name := by
  rw [Statement.runOn_execute_assignment]
  generalize source.execute.runOn table = run
  obtain ⟨outcome, between⟩ := run
  cases outcome with
  | error error => rfl
  | ok value =>
      dsimp only
      have unchanged := Marker.runOn_combine_snd (.compound operator) target value between
      generalize combined :
        ((Marker.compound operator).combine target value).runOn between = run at unchanged
      obtain ⟨outcome, after⟩ := run
      change after = between at unchanged
      subst after
      cases outcome with
      | error error => rfl
      | ok result =>
          have bound := Marker.contains_of_runOn_combine combined
          dsimp only
          rw [Bool.eq_iff_iff, Table.contains_set, or_iff_right_iff_imp]
          rintro rfl
          exact bound

/-- A plain assignment binds its target too, if its source has a value. -/
theorem contains_runOn_execute_plain (target : String) (source : Statement) (table : Table)
    (name : String) :
    ((Statement.assignment target .plain source).execute.runOn table).2.contains name = true ↔
      (source.execute.runOn table).2.contains name = true ∨
        name = target ∧ ∃ value between, source.execute.runOn table = (.ok value, between) := by
  rw [Statement.runOn_execute_assignment]
  generalize source.execute.runOn table = run
  obtain ⟨outcome, between⟩ := run
  cases outcome with
  | error error => simp
  | ok value =>
      change (between.set target value).contains name = true ↔ _
      rw [Table.contains_set]
      simp [or_comm]

/-! ### Cascades -/

namespace Cascade

/-- The cascade gives a name a value by its innermost stage: that stage assigns
the name plainly, and the words behind it have a value. -/
def Binds (cascade : Cascade) (table : Table) (name : String) : Prop :=
  cascade.stages.getLast? = some ⟨name, .plain⟩ ∧
    ∃ value left, (evaluateWords cascade.source).runOn table = (.ok value, left)

theorem Binds.unique {cascade : Cascade} {other : String} (binds : cascade.Binds table name)
    (bindsToo : cascade.Binds table other) : name = other := by
  have same := binds.1.symm.trans bindsToo.1
  cases same
  rfl

/-- No marker has a higher rank than the plain one. -/
theorem marker_ne_plain_of_encloses {outer inner : Stage} (encloses : outer.Encloses inner) :
    outer.marker ≠ .plain := by
  intro isPlain
  have above : outer.marker.rank < inner.marker.rank := encloses
  have below := inner.marker.rank_lt_length
  rw [isPlain] at above
  have last : Marker.plain.rank = 5 := by decide
  have six : Marker.all.length = 6 := by decide
  omega

/-- A cascade leaves bound what was bound before and what its innermost stage binds. -/
theorem contains_runOn_execute (cascade : Cascade) (table : Table) (name : String) :
    (cascade.statement.execute.runOn table).2.contains name = true ↔
      table.contains name = true ∨ cascade.Binds table name := by
  induction cascade using Cascade.induction with
  | expression source nonempty unmarked =>
      have noStage : ¬ (expression source nonempty unmarked).Binds table name :=
        fun binds => nomatch binds.1
      rw [or_iff_left noStage]
      exact Bool.eq_iff_iff.mp (contains_runOn_evaluateWords source table name)
  | enclose inner stage identifier encloses inductionHypothesis =>
      obtain ⟨target, marker⟩ := stage
      change ((Statement.assignment target marker inner.statement).execute.runOn table).2.contains
        name = true ↔ _
      cases marker with
      | compound operator =>
          rw [contains_runOn_execute_compound, inductionHypothesis]
          refine or_congr_right (and_congr_left fun _ => ?_)
          change _ ↔ (⟨target, .compound operator⟩ :: inner.stages).getLast? = _
          cases inner.stages with
          | nil => simp
          | cons next rest => rw [List.getLast?_cons_cons]
      | plain =>
          -- A plain stage encloses no other, so the words behind it are the source.
          have innermost : inner.stages = [] := by
            cases stages : inner.stages with
            | nil => rfl
            | cons next rest =>
                have isNext : next ∈ inner.stages := by simp [stages]
                exact absurd rfl (marker_ne_plain_of_encloses (encloses next isNext))
          have source : inner.statement = .expression inner.source := by
            rw [statement, innermost]
            rfl
          rw [contains_runOn_execute_plain, source]
          change ((evaluateWords inner.source).runOn table).2.contains name = true ∨ _ ↔ _
          rw [contains_runOn_evaluateWords]
          refine or_congr_right (and_congr_left fun _ => ?_)
          change _ ↔ (⟨target, .plain⟩ :: inner.stages).getLast? = _
          rw [innermost]
          simp [eq_comm]

/-- What a text leaves bound whose words are those of a cascade. -/
theorem contains_runOn_evaluate {cascade : Cascade} {text : String}
    (spelled : cascade.words = Text.words text) :
    ((evaluate text).runOn table).2.contains name = true ↔
      table.contains name = true ∨ cascade.Binds table name := by
  rw [runOn_evaluate, Statement.ofText, ← spelled, cascade.ofWords_words]
  exact cascade.contains_runOn_execute table name

end Cascade

/-! ### Texts -/

/-- A text leaves bound what was bound before, and at most the name that its
cascade binds. -/
theorem contains_runOn_evaluate_iff (text : String) (table : Table) (name : String) :
    ((evaluate text).runOn table).2.contains name = true ↔
      table.contains name = true ∨
        ∃ cascade : Cascade, cascade.words = Text.words text ∧ cascade.Binds table name := by
  by_cases isCascade : ∃ cascade : Cascade, cascade.words = Text.words text
  · obtain ⟨cascade, spelled⟩ := isCascade
    constructor
    · intro contains
      exact ((Cascade.contains_runOn_evaluate spelled).mp contains).imp_right fun binds =>
        ⟨cascade, spelled, binds⟩
    · rintro (already | ⟨other, spelledToo, binds⟩)
      · exact (Cascade.contains_runOn_evaluate spelled).mpr (.inl already)
      · exact (Cascade.contains_runOn_evaluate spelledToo).mpr (.inr binds)
  · have unchanged : ((evaluate text).runOn table).2.contains name = table.contains name := by
      by_cases empty : Text.words text = []
      · have unmarked : ∀ marker : Marker, marker.spelling ∉ Text.words text := by simp [empty]
        rw [evaluate_of_unmarked unmarked, contains_runOn_evaluateWords]
      · cases spelled : Statement.ofText text with
        | error error => rw [runOn_evaluate, spelled]
        | ok statement => exact absurd (Cascade.exists_of_ofWords_eq_ok empty spelled) isCascade
    have noCascade : ¬ ∃ cascade : Cascade,
        cascade.words = Text.words text ∧ cascade.Binds table name :=
      fun ⟨cascade, spelled, _⟩ => isCascade ⟨cascade, spelled⟩
    rw [unchanged, or_iff_left noCascade]

/-- A text binds at most one name that was not bound. -/
theorem eq_of_newly_bound {text other : String} (absent : table.contains name = false)
    (absentToo : table.contains other = false)
    (bound : ((evaluate text).runOn table).2.contains name = true)
    (boundToo : ((evaluate text).runOn table).2.contains other = true) : name = other := by
  rcases (contains_runOn_evaluate_iff text table name).mp bound with
    already | ⟨cascade, spelled, binds⟩
  · simp [absent] at already
  · rcases (Cascade.contains_runOn_evaluate spelled).mp boundToo with already | bindsToo
    · simp [absentToo] at already
    · exact binds.unique bindsToo

/-- A text without a plain marker binds no name. -/
theorem contains_runOn_evaluate_of_no_plain {text : String}
    (noPlain : Marker.plain.spelling ∉ Text.words text) (table : Table) (name : String) :
    ((evaluate text).runOn table).2.contains name = table.contains name := by
  have noCascade : ¬ ∃ cascade : Cascade,
      cascade.words = Text.words text ∧ cascade.Binds table name := by
    rintro ⟨cascade, spelled, innermost, _⟩
    rw [← spelled, Cascade.spelling_mem_words_iff] at noPlain
    exact noPlain ⟨_, List.mem_of_getLast? innermost, rfl⟩
  rw [Bool.eq_iff_iff, contains_runOn_evaluate_iff, or_iff_left noCascade]

end Reckoner
