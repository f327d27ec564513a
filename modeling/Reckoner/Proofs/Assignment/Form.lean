import Mathlib.Data.List.Basic
import Reckoner.Proofs.Sequencing

/-!
Contract: one level of a statement.

The words of a statement are looked at one marker at a time, and a single look
decides on their form: that the words are an expression, that they are refused,
or that they assign to a target the value of the words after the marker. Main
statement: the last is the case of a single identifier, a marker, and words in
which every marker has a higher rank.

Owns: the ranks of markers, the words of each form, and the reading of statements
level by level.

Does not own: which lists of words are statements.
-/

namespace Reckoner

open Text (joinWords)

namespace Marker

theorem mem_all (marker : Marker) : marker ∈ all := by
  cases marker with
  | plain => decide
  | compound operator => cases operator <;> decide

theorem spelling_injective {left right : Marker} (same : left.spelling = right.spelling) :
    left = right := by
  revert same
  cases left with
  | plain =>
      cases right with
      | plain => decide
      | compound operator => cases operator <;> decide
  | compound operator =>
      cases right with
      | plain => cases operator <;> decide
      | compound other => cases operator <;> cases other <;> decide

theorem firstIn?_eq_none_iff {words : List String} :
    firstIn? words = none ↔ ∀ marker : Marker, marker.spelling ∉ words := by
  simp only [firstIn?, List.find?_eq_none, decide_eq_true_eq]
  exact ⟨fun absent marker => absent marker marker.mem_all, fun absent marker _ => absent marker⟩

theorem spelling_not_identifier (marker : Marker) :
    isIdentifier marker.spelling.toList = false := by
  cases marker with
  | plain => decide
  | compound operator => cases operator <;> decide

/-! ### Ranks -/

/-- The place of a marker among those that are looked for. -/
def rank (marker : Marker) : Nat :=
  all.idxOf marker

example : all.map spelling = ["+=", "-=", "*=", "/=", "%=", "="] := by decide

theorem rank_lt_length (marker : Marker) : marker.rank < all.length :=
  List.idxOf_lt_length_of_mem marker.mem_all

theorem rank_injective {left right : Marker} (same : left.rank = right.rank) : left = right :=
  (List.idxOf_inj left.mem_all).mp same

/-- The first marker among the words is the one of lowest rank. -/
theorem firstIn?_eq_some_iff {words : List String} {marker : Marker} :
    firstIn? words = some marker ↔
      marker.spelling ∈ words ∧
        ∀ other : Marker, other.spelling ∈ words → marker.rank ≤ other.rank := by
  have distinct : all.Nodup := by decide
  rw [firstIn?, List.find?_eq_some_iff_getElem]
  simp only [decide_eq_true_eq, Bool.not_eq_true', decide_eq_false_iff_not]
  refine and_congr_right fun _ => ?_
  constructor
  · rintro ⟨place, inside, isMarker, absentBelow⟩ other present
    have atPlace : all[place].rank = place := distinct.idxOf_getElem place inside
    rw [isMarker] at atPlace
    rw [atPlace]
    refine Nat.le_of_not_lt fun below => absentBelow other.rank below ?_
    have bound := other.rank_lt_length
    rw [show all[other.rank] = other from List.getElem_idxOf bound]
    exact present
  · intro lowest
    have bound := marker.rank_lt_length
    refine ⟨marker.rank, bound, List.getElem_idxOf bound, ?_⟩
    intro place below present
    have inside : place < all.length := Nat.lt_trans below bound
    have atPlace : all[place].rank = place := distinct.idxOf_getElem place inside
    have atLeast := lowest _ present
    omega

end Marker

namespace Statement

/-- The statement that the words spell, level by level. -/
theorem ofWords_eq (words : List String) :
    ofWords words =
      match Form.ofWords words with
      | .expression => .ok (.expression words)
      | .refused cause => .error (.invalidAssignment cause)
      | .assignment target marker source =>
          ofWords source >>= fun statement => .ok (.assignment target marker statement) := by
  rw [ofWords]
  split
  · rename_i isExpression
    rw [isExpression]
  · rename_i isRefused
    rw [isRefused]
  · rename_i assigns
    dsimp only
    rw [assigns]
    rfl

theorem Form.ofWords_eq_expression_iff {words : List String} :
    Form.ofWords words = .expression ↔ ∀ marker : Marker, marker.spelling ∉ words := by
  rw [← Marker.firstIn?_eq_none_iff, Form.ofWords]
  constructor
  · intro isExpression
    split at isExpression
    · assumption
    · dsimp only at isExpression
      split at isExpression
      · cases isExpression
      · split at isExpression <;> cases isExpression
  · intro absent
    rw [absent]

theorem ofWords_of_unmarked {words : List String}
    (unmarked : ∀ marker : Marker, marker.spelling ∉ words) :
    ofWords words = .ok (.expression words) := by
  rw [ofWords_eq, Form.ofWords_eq_expression_iff.mpr unmarked]

/-! ### Assignments -/

theorem wordsBefore_append_wordsAfter {word : String} {words : List String}
    (present : word ∈ words) :
    wordsBefore word words ++ word :: wordsAfter word words = words := by
  induction words with
  | nil => cases present
  | cons first rest inductionHypothesis =>
      by_cases same : first = word
      · simp [wordsBefore, wordsAfter, same]
      · have later : word ∈ rest := (List.mem_cons.mp present).resolve_left (Ne.symm same)
        have restSplit := inductionHypothesis later
        simp only [wordsBefore, wordsAfter] at restSplit ⊢
        rw [List.takeWhile_cons_of_pos (by simp [same]),
          List.dropWhile_cons_of_pos (by simp [same]), List.cons_append, restSplit]

theorem target?_eq_some_iff {before : List String} {target : String} :
    target? before = some target ↔ before = [target] ∧ isIdentifier target.toList = true := by
  unfold target?
  split
  · rename_i word
    constructor
    · intro isTarget
      split at isTarget
      · cases isTarget
        exact ⟨rfl, ‹_›⟩
      · cases isTarget
    · rintro ⟨same, identifier⟩
      cases same
      rw [if_pos identifier]
  · rename_i notSingle
    constructor
    · intro isTarget
      cases isTarget
    · rintro ⟨same, _⟩
      exact absurd same (notSingle target)

private theorem firstIn?_of_spelled {source : List String} {target : String} {marker : Marker}
    (identifier : isIdentifier target.toList = true)
    (higher : ∀ other : Marker, other.spelling ∈ source → marker.rank < other.rank) :
    Marker.firstIn? (target :: marker.spelling :: source) = some marker := by
  refine Marker.firstIn?_eq_some_iff.mpr ⟨by simp, ?_⟩
  intro other present
  rcases List.mem_cons.mp present with same | present
  · rw [← same, other.spelling_not_identifier] at identifier
    cases identifier
  · rcases List.mem_cons.mp present with same | later
    · exact Nat.le_of_eq (congrArg Marker.rank (Marker.spelling_injective same.symm))
    · exact Nat.le_of_lt (higher other later)

/-- Words assign exactly if they are an identifier, a marker, and words that
hold only markers of higher rank. -/
theorem Form.ofWords_eq_assignment_iff {words source : List String} {target : String}
    {marker : Marker} :
    Form.ofWords words = .assignment target marker source ↔
      words = target :: marker.spelling :: source ∧ isIdentifier target.toList = true ∧
        source ≠ [] ∧ ∀ other : Marker, other.spelling ∈ source → marker.rank < other.rank := by
  constructor
  · intro assigns
    obtain ⟨found, isTarget, rfl, nonempty, notRepeated⟩ := found_of_ofWords_eq_assignment assigns
    have ⟨present, lowest⟩ := Marker.firstIn?_eq_some_iff.mp found
    have whole := wordsBefore_append_wordsAfter present
    obtain ⟨before, identifier⟩ := target?_eq_some_iff.mp isTarget
    rw [before] at whole
    refine ⟨whole.symm, identifier, nonempty, ?_⟩
    intro other later
    have amongWords : other.spelling ∈ words := by
      rw [← whole]
      exact List.mem_append_right _ (List.mem_cons_of_mem _ later)
    refine Nat.lt_of_le_of_ne (lowest other amongWords) fun sameRank => ?_
    have same := Marker.rank_injective sameRank
    subst same
    exact notRepeated later
  · rintro ⟨rfl, identifier, nonempty, higher⟩
    have different : target ≠ marker.spelling := by
      intro same
      rw [same, marker.spelling_not_identifier] at identifier
      cases identifier
    have found := firstIn?_of_spelled identifier higher
    have before : wordsBefore marker.spelling (target :: marker.spelling :: source) = [target] := by
      simp [wordsBefore, different]
    have after : wordsAfter marker.spelling (target :: marker.spelling :: source) = source := by
      simp [wordsAfter, different]
    have notRepeated : marker.spelling ∉ source :=
      fun later => Nat.lt_irrefl _ (higher marker later)
    have isTarget : target? [target] = some target := target?_eq_some_iff.mpr ⟨rfl, identifier⟩
    simp [Form.ofWords, found, before, after, notRepeated, nonempty, isTarget]

theorem spelling_mem_of_form {words source : List String} {target : String} {marker : Marker}
    (assigns : Form.ofWords words = .assignment target marker source) :
    marker.spelling ∈ words := by
  rw [(Form.ofWords_eq_assignment_iff.mp assigns).1]
  simp

/-! ### Outcomes of reading -/

theorem unmarked_of_ofWords_eq_ok_expression {words source : List String}
    (reads : ofWords words = .ok (.expression source)) :
    ∀ marker : Marker, marker.spelling ∉ words := by
  rw [ofWords_eq] at reads
  split at reads
  · rename_i isExpression
    exact Form.ofWords_eq_expression_iff.mp isExpression
  · cases reads
  · obtain ⟨inner, _, impossible⟩ := bind_eq_ok_iff.mp reads
    cases impossible

theorem form_of_ofWords_eq_ok_assignment {words : List String} {target : String}
    {marker : Marker} {inner : Statement}
    (reads : ofWords words = .ok (.assignment target marker inner)) :
    ∃ source, Form.ofWords words = .assignment target marker source ∧
      ofWords source = .ok inner := by
  rw [ofWords_eq] at reads
  split at reads
  · cases reads
  · cases reads
  · rename_i source assigns
    obtain ⟨statement, readsSource, same⟩ := bind_eq_ok_iff.mp reads
    cases same
    exact ⟨source, assigns, readsSource⟩

/-- Words that are no statement are refused as an assignment. -/
theorem refused_of_ofWords_eq_error {words : List String} {error : EvalError}
    (fails : ofWords words = .error error) : ∃ cause, error = .invalidAssignment cause := by
  induction size : words.length using Nat.strongRecOn generalizing words with
  | _ size inductionHypothesis =>
      rw [ofWords_eq] at fails
      split at fails
      · cases fails
      · cases fails
        exact ⟨_, rfl⟩
      · rename_i source assigns
        cases readsSource : ofWords source with
        | ok statement =>
            rw [readsSource] at fails
            cases fails
        | error cause =>
            rw [readsSource] at fails
            cases fails
            exact inductionHypothesis source.length (size ▸ length_lt_of_form assigns)
              readsSource rfl

end Statement

/-! ### Texts -/

theorem evaluate_of_ofWords {text : String} {statement : Statement}
    (spelled : Statement.ofWords (Text.words text) = .ok statement) :
    evaluate text = statement.execute := by
  rw [evaluate, Statement.ofText, spelled, EvalM.ofExcept_ok_bind]

theorem evaluate_of_unmarked {text : String}
    (unmarked : ∀ marker : Marker, marker.spelling ∉ Text.words text) :
    evaluate text = evaluateWords (Text.words text) := by
  rw [evaluate_of_ofWords (Statement.ofWords_of_unmarked unmarked), Statement.execute]

end Reckoner
