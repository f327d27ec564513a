import Reckoner.Proofs.Assignment.Form

/-!
Contract: assignments in a row.

A cascade is a row of targets, each with a marker after it, and the words of
an expression behind them. The ranks of the markers ascend, so that looking for
the first marker in rank finds the stages from the outside in.

Owns: cascades, their words and their statements, and that the words with a
marker that make up a statement are those of the cascades.

Does not own: what a cascade does to a table.
-/

namespace Reckoner

open Statement (Form)

/-- A target and the marker after it. -/
structure Stage where
  target : String
  marker : Marker
deriving DecidableEq

namespace Stage

def words (stage : Stage) : List String :=
  [stage.target, stage.marker.spelling]

/-- The first stage encloses the second. -/
def Encloses (outer inner : Stage) : Prop :=
  outer.marker.rank < inner.marker.rank

instance (outer inner : Stage) : Decidable (outer.Encloses inner) :=
  inferInstanceAs (Decidable (outer.marker.rank < inner.marker.rank))

end Stage

/-- Stages in ascending rank before the words of an expression. -/
structure Cascade where
  stages : List Stage
  source : List String
  identifiers : ∀ stage ∈ stages, isIdentifier stage.target.toList = true
  ascending : stages.Pairwise Stage.Encloses
  source_ne_nil : source ≠ []
  source_unmarked : ∀ marker : Marker, marker.spelling ∉ source

namespace Cascade

def words (cascade : Cascade) : List String :=
  cascade.stages.flatMap Stage.words ++ cascade.source

def statement (cascade : Cascade) : Statement :=
  cascade.stages.foldr (fun stage inner => .assignment stage.target stage.marker inner)
    (.expression cascade.source)

/-! ### Building -/

/-- The cascade without stages. -/
def expression (source : List String) (nonempty : source ≠ [])
    (unmarked : ∀ marker : Marker, marker.spelling ∉ source) : Cascade where
  stages := []
  source := source
  identifiers := by simp
  ascending := .nil
  source_ne_nil := nonempty
  source_unmarked := unmarked

/-- The cascade with one more stage around it. -/
def enclose (inner : Cascade) (stage : Stage) (identifier : isIdentifier stage.target.toList = true)
    (encloses : ∀ other ∈ inner.stages, stage.Encloses other) : Cascade where
  stages := stage :: inner.stages
  source := inner.source
  identifiers := List.forall_mem_cons.mpr ⟨identifier, inner.identifiers⟩
  ascending := .cons encloses inner.ascending
  source_ne_nil := inner.source_ne_nil
  source_unmarked := inner.source_unmarked

@[elab_as_elim] theorem induction {motive : Cascade → Prop}
    (expression : ∀ source nonempty unmarked, motive (expression source nonempty unmarked))
    (enclose : ∀ inner stage identifier encloses,
      motive inner → motive (enclose inner stage identifier encloses))
    (cascade : Cascade) : motive cascade := by
  obtain ⟨stages, source, identifiers, ascending, nonempty, unmarked⟩ := cascade
  induction stages with
  | nil => exact expression source nonempty unmarked
  | cons stage rest inductionHypothesis =>
      have identifiersOfRest := fun other present =>
        identifiers other (List.mem_cons_of_mem stage present)
      have ⟨encloses, ascendingRest⟩ := List.pairwise_cons.mp ascending
      exact enclose ⟨rest, source, identifiersOfRest, ascendingRest, nonempty, unmarked⟩ stage
        (identifiers stage List.mem_cons_self) encloses
        (inductionHypothesis identifiersOfRest ascendingRest)

theorem words_enclose (inner : Cascade) (stage : Stage)
    (identifier : isIdentifier stage.target.toList = true)
    (encloses : ∀ other ∈ inner.stages, stage.Encloses other) :
    (inner.enclose stage identifier encloses).words =
      stage.target :: stage.marker.spelling :: inner.words := rfl

theorem words_ne_nil (cascade : Cascade) : cascade.words ≠ [] := by
  simp [words, cascade.source_ne_nil]

/-- The markers of a cascade are those of its stages. -/
theorem spelling_mem_words_iff {cascade : Cascade} {marker : Marker} :
    marker.spelling ∈ cascade.words ↔ ∃ stage ∈ cascade.stages, stage.marker = marker := by
  simp only [words, List.mem_append, List.mem_flatMap, cascade.source_unmarked, or_false]
  refine exists_congr fun stage => and_congr_right fun present => ?_
  constructor
  · intro isWord
    have isOne : marker.spelling = stage.target ∨ marker.spelling = stage.marker.spelling := by
      simpa [Stage.words] using isWord
    rcases isOne with isTarget | isMarker
    · have identifier := cascade.identifiers stage present
      rw [← isTarget, marker.spelling_not_identifier] at identifier
      cases identifier
    · exact Marker.spelling_injective isMarker.symm
  · rintro rfl
    simp [Stage.words]

/-! ### Reading -/

/-- Looking at the words of a cascade finds its outermost stage. -/
theorem form_words_enclose (inner : Cascade) (stage : Stage)
    (identifier : isIdentifier stage.target.toList = true)
    (encloses : ∀ other ∈ inner.stages, stage.Encloses other) :
    Form.ofWords (inner.enclose stage identifier encloses).words =
      .assignment stage.target stage.marker inner.words := by
  refine Form.ofWords_eq_assignment_iff.mpr
    ⟨words_enclose inner stage identifier encloses, identifier, inner.words_ne_nil, ?_⟩
  intro other present
  obtain ⟨enclosed, isStage, rfl⟩ := spelling_mem_words_iff.mp present
  exact encloses enclosed isStage

theorem ofWords_words (cascade : Cascade) :
    Statement.ofWords cascade.words = .ok cascade.statement := by
  induction cascade using induction with
  | expression source nonempty unmarked => exact Statement.ofWords_of_unmarked unmarked
  | enclose inner stage identifier encloses inductionHypothesis =>
      rw [Statement.ofWords_eq, form_words_enclose]
      dsimp only
      rw [inductionHypothesis]
      rfl

/-- The words of every statement are those of a cascade. -/
theorem exists_of_ofWords_eq_ok {words : List String} (nonempty : words ≠ [])
    {statement : Statement} (reads : Statement.ofWords words = .ok statement) :
    ∃ cascade : Cascade, cascade.words = words := by
  induction statement generalizing words with
  | expression source =>
      exact ⟨expression words nonempty (Statement.unmarked_of_ofWords_eq_ok_expression reads), rfl⟩
  | assignment target marker source inductionHypothesis =>
      obtain ⟨after, assigns, readsAfter⟩ := Statement.form_of_ofWords_eq_ok_assignment reads
      obtain ⟨rfl, identifier, afterNonempty, higher⟩ :=
        Form.ofWords_eq_assignment_iff.mp assigns
      obtain ⟨inner, rfl⟩ := inductionHypothesis afterNonempty readsAfter
      have encloses (other : Stage) (isStage : other ∈ inner.stages) :
          Stage.Encloses ⟨target, marker⟩ other :=
        higher other.marker (spelling_mem_words_iff.mpr ⟨other, isStage, rfl⟩)
      exact ⟨inner.enclose ⟨target, marker⟩ identifier encloses, rfl⟩

/-- Words with a marker are a statement exactly if they are a cascade with stages. -/
theorem exists_ofWords_eq_ok_iff {words : List String}
    (marked : ∃ marker : Marker, marker.spelling ∈ words) :
    (∃ statement, Statement.ofWords words = .ok statement) ↔
      ∃ cascade : Cascade, cascade.stages ≠ [] ∧ cascade.words = words := by
  obtain ⟨marker, present⟩ := marked
  constructor
  · rintro ⟨statement, reads⟩
    obtain ⟨cascade, rfl⟩ := exists_of_ofWords_eq_ok (List.ne_nil_of_mem present) reads
    obtain ⟨stage, isStage, _⟩ := spelling_mem_words_iff.mp present
    exact ⟨cascade, List.ne_nil_of_mem isStage, rfl⟩
  · rintro ⟨cascade, _, rfl⟩
    exact ⟨cascade.statement, cascade.ofWords_words⟩

/-- Words are refused exactly if they have a marker and are no cascade with stages. -/
theorem exists_refused_iff {words : List String} :
    (∃ cause, Statement.ofWords words = .error (.invalidAssignment cause)) ↔
      (∃ marker : Marker, marker.spelling ∈ words) ∧
        ¬ ∃ cascade : Cascade, cascade.stages ≠ [] ∧ cascade.words = words := by
  constructor
  · rintro ⟨cause, refused⟩
    have marked : ∃ marker : Marker, marker.spelling ∈ words := by
      by_contra unmarked
      rw [Statement.ofWords_of_unmarked (not_exists.mp unmarked)] at refused
      cases refused
    refine ⟨marked, fun isCascade => ?_⟩
    obtain ⟨statement, reads⟩ := (exists_ofWords_eq_ok_iff marked).mpr isCascade
    rw [reads] at refused
    cases refused
  · rintro ⟨marked, noCascade⟩
    rw [← exists_ofWords_eq_ok_iff marked] at noCascade
    cases reads : Statement.ofWords words with
    | ok statement => exact absurd ⟨statement, reads⟩ noCascade
    | error error =>
        obtain ⟨cause, rfl⟩ := Statement.refused_of_ofWords_eq_error reads
        exact ⟨cause, rfl⟩

end Cascade

end Reckoner
