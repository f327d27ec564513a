import Reckoner.Grouping

/-!
Contract: statements, the shape of a text that can be evaluated.

A statement is an expression without assignment markers, or an assignment: a
target, a marker, and the statement whose value is assigned. The markers are
ranked, and the first in rank that occurs in the words splits them, wherever
it stands; so the markers of nested assignments stand in ascending rank.

Owns: the markers and their ranks, the type of statements, what a single look at
the words decides, and the reading of statements from it.

Does not own: what a statement does.
-/

namespace Reckoner

open Text (joinWords)

/-- A marker of an assignment. -/
inductive Marker where
  /-- Combines the old value of the target with the new one. -/
  | compound (operator : Operator)
  | plain
deriving DecidableEq, Repr

namespace Marker

/-- The markers in the order in which they are looked for. -/
def all : List Marker :=
  [.compound .add, .compound .subtract, .compound .multiply, .compound .divide,
    .compound .remainder, .plain]

def spelling : Marker → String
  | .compound operator => operator.symbol ++ "="
  | .plain => "="

/-- The first marker in rank that is among the words. -/
def firstIn? (words : List String) : Option Marker :=
  all.find? fun marker => decide (marker.spelling ∈ words)

theorem mem_of_firstIn? {words : List String} {marker : Marker}
    (found : firstIn? words = some marker) : marker.spelling ∈ words := by
  have holds := List.find?_some found
  simpa using holds

end Marker

/-- A text that can be evaluated. -/
inductive Statement where
  | expression (words : List String)
  | assignment (target : String) (marker : Marker) (source : Statement)
deriving DecidableEq

namespace Statement

/-- The words before the first occurrence of a word. -/
def wordsBefore (word : String) (words : List String) : List String :=
  words.takeWhile fun other => decide (other ≠ word)

/-- The words after the first occurrence of a word. -/
def wordsAfter (word : String) (words : List String) : List String :=
  (words.dropWhile fun other => decide (other ≠ word)).drop 1

theorem length_wordsAfter_lt {word : String} {words : List String}
    (present : word ∈ words) : (wordsAfter word words).length < words.length := by
  have kept : (words.dropWhile fun other => decide (other ≠ word)).length ≤ words.length :=
    (List.dropWhile_sublist _).length_le
  have nonempty : words ≠ [] := List.ne_nil_of_mem present
  have positive : 0 < words.length := List.length_pos_iff.2 nonempty
  simp only [wordsAfter, List.length_drop]
  omega

/-- The single identifier that the words are, if they are one. -/
def target? : List String → Option String
  | [word] => if isIdentifier word.toList then some word else none
  | _ => none

/-- What the first marker among words decides. -/
inductive Form where
  /-- There is no marker. -/
  | expression
  | refused (cause : InvalidAssignment)
  /-- A target is assigned the value of the words after the marker. -/
  | assignment (target : String) (marker : Marker) (source : List String)
deriving DecidableEq

def Form.ofWords (words : List String) : Form :=
  match Marker.firstIn? words with
  | none => .expression
  | some marker =>
      let before := wordsBefore marker.spelling words
      let after := wordsAfter marker.spelling words
      if marker.spelling ∈ after ∨ before = [] ∨ after = [] then
        .refused (.misplacedMarker (joinWords words))
      else
        match target? before with
        | none => .refused (.invalidTarget (joinWords before) (joinWords words))
        | some target => .assignment target marker after

/-- What a single look has found where words assign. -/
theorem Form.found_of_ofWords_eq_assignment {words source : List String} {target : String}
    {marker : Marker} (assigns : Form.ofWords words = .assignment target marker source) :
    Marker.firstIn? words = some marker ∧
      target? (wordsBefore marker.spelling words) = some target ∧
        wordsAfter marker.spelling words = source ∧ source ≠ [] ∧ marker.spelling ∉ source := by
  unfold Form.ofWords at assigns
  split at assigns
  · cases assigns
  · rename_i first found
    dsimp only at assigns
    split at assigns
    · cases assigns
    · rename_i placed
      simp only [not_or] at placed
      split at assigns
      · cases assigns
      · rename_i single isTarget
        cases assigns
        exact ⟨found, isTarget, rfl, placed.2.2, placed.1⟩

theorem length_lt_of_form {words source : List String} {target : String} {marker : Marker}
    (assigns : Form.ofWords words = .assignment target marker source) :
    source.length < words.length := by
  obtain ⟨found, _, rfl, _⟩ := Form.found_of_ofWords_eq_assignment assigns
  exact length_wordsAfter_lt (Marker.mem_of_firstIn? found)

/-- The statement that the words spell. -/
def ofWords (words : List String) : Except EvalError Statement :=
  match assigns : Form.ofWords words with
  | .expression => .ok (.expression words)
  | .refused cause => .error (.invalidAssignment cause)
  | .assignment target marker source => do
      have := length_lt_of_form assigns
      let statement ← ofWords source
      return .assignment target marker statement
termination_by words.length

/-- The statement that a text spells. -/
def ofText (text : String) : Except EvalError Statement :=
  ofWords (Text.words text)

end Statement

end Reckoner
