import Reckoner.Proofs.Report.ValueText
import Reckoner.Proofs.Text.Words
import Reckoner.Proofs.Token.Identifier
import Reckoner.Statement

/-!
Contract: the pieces of a summary.

A reader of summaries takes off the parentheses, cuts at the commas, and turns
`name=value` into the assignment `name = value`. An identifier holds none of
these separators, and neither does the text of a finite value. Main statement:
a summary of such names and values shows one assignment for each of them, in
ascending order of the names.

Owns: the pieces of a summary and the assignments that they show.

Does not own: what the assignments do.
-/

namespace Reckoner

open Text (isBlank isParenthesis IsWord joinWords)

namespace Summary

/-- The text between the parentheses, cut at the commas. Where nothing stands
between them there are no pieces. -/
def pieces (summary : String) : List String :=
  let inner := summary.toList.tail.dropLast
  if inner = [] then [] else (inner.splitOn ',').map String.ofList

/-- A piece with spaces around its equality sign. -/
def assignment (piece : String) : String :=
  let isName := fun character => character != '='
  String.ofList (piece.toList.takeWhile isName) ++ " = " ++
    String.ofList ((piece.toList.dropWhile isName).drop 1)

/-- The assignments that a summary shows. -/
def assignments (summary : String) : List String :=
  (pieces summary).map assignment

/-- A binding that can be read out of a summary. -/
structure Readable (entry : String × Binary64) : Prop where
  identifier : isIdentifier entry.1.toList = true
  finite : entry.2.isFinite = true

end Summary

/-! ### Separators -/

theorem isWord_formatValue {value : Binary64} (finite : value.isFinite = true) :
    IsWord (formatValue value).toList := by
  obtain ⟨nonempty, bounds⟩ := formatValue_characters finite
  apply IsWord.of_plain nonempty
  intro character member
  have between := bounds character member
  exact Text.plain_of_toNat (by omega) (by omega)

namespace Summary

/-- The text of one binding in a summary. -/
def piece (entry : String × Binary64) : String :=
  entry.1 ++ "=" ++ formatValue entry.2

/-- The words of the assignment that a piece shows. -/
def words (entry : String × Binary64) : List String :=
  [entry.1, Marker.plain.spelling, formatValue entry.2]

variable {entry : String × Binary64}

private theorem toList_piece (entry : String × Binary64) :
    (piece entry).toList = entry.1.toList ++ '=' :: (formatValue entry.2).toList := by
  simp [piece]

private theorem Readable.comma_not_mem (readable : Readable entry) :
    ',' ∉ (piece entry).toList := by
  rw [toList_piece, List.mem_append, List.mem_cons]
  rintro (inName | isEquality | inValue)
  · exact absurd (isIdentifierRest_of_mem readable.identifier ',' inName) (by decide)
  · cases isEquality
  · exact absurd ((formatValue_characters readable.finite).2 ',' inValue).1 (by decide)

/-- The assignment of a piece consists of the name, the marker and the value. -/
theorem Readable.assignment_piece (readable : Readable entry) :
    assignment (piece entry) = joinWords (words entry) := by
  have inName : ∀ character ∈ entry.1.toList, (character != '=') = true := by
    intro character member
    rw [bne_iff_ne]
    rintro rfl
    exact absurd (isIdentifierRest_of_mem readable.identifier '=' member) (by decide)
  have before : (piece entry).toList.takeWhile (· != '=') = entry.1.toList := by
    rw [toList_piece, List.takeWhile_append_of_pos inName]
    simp
  have behind : (piece entry).toList.dropWhile (· != '=') =
      '=' :: (formatValue entry.2).toList := by
    rw [toList_piece, List.dropWhile_append_of_pos inName]
    simp
  rw [assignment, before, behind, List.drop_succ_cons, List.drop_zero, String.ofList_toList,
    String.ofList_toList, ← String.toList_inj]
  simp [joinWords, words, Marker.spelling]

/-! ### Summaries -/

theorem pieces_of_readable {entries : List (String × Binary64)}
    (readable : ∀ entry ∈ entries, Readable entry) :
    pieces ("(" ++ ",".intercalate (entries.map piece) ++ ")") = entries.map piece := by
  have inner : ("(" ++ ",".intercalate (entries.map piece) ++ ")").toList.tail.dropLast =
      [','].intercalate (entries.map fun entry => (piece entry).toList) := by
    simp [String.toList_intercalate, List.map_map, Function.comp_def]
  rw [pieces, inner]
  by_cases none : entries = []
  · rw [none]
    rfl
  · have split : ([','].intercalate (entries.map fun entry => (piece entry).toList)).splitOn ',' =
        entries.map fun entry => (piece entry).toList := by
      refine List.splitOn_intercalate ',' ?_ (by simp [none])
      intro characters member
      obtain ⟨entry, isEntry, rfl⟩ := List.mem_map.mp member
      exact (readable entry isEntry).comma_not_mem
    have notEmpty : [','].intercalate (entries.map fun entry => (piece entry).toList) ≠ [] := by
      -- Nothing is cut into one empty piece, and no piece of a summary is empty.
      intro empty
      rw [empty, List.splitOn_nil] at split
      have emptyPiece : [] ∈ entries.map fun entry => (piece entry).toList := by
        rw [← split]
        exact List.mem_singleton_self []
      obtain ⟨entry, _, isEmpty⟩ := List.mem_map.mp emptyPiece
      rw [toList_piece] at isEmpty
      simp at isEmpty
    rw [if_neg notEmpty, split]
    simp [Function.comp_def]

/-- **The assignments that a summary shows** are those of its bindings. -/
theorem assignments_summary {table : Table} (readable : ∀ entry ∈ table.items, Readable entry) :
    assignments table.summary = table.items.map fun entry => joinWords (words entry) := by
  have shown : table.summary = "(" ++ ",".intercalate (table.items.map piece) ++ ")" := rfl
  rw [assignments, shown, pieces_of_readable readable, List.map_map]
  exact List.map_congr_left fun entry isEntry => (readable entry isEntry).assignment_piece

theorem Readable.words_joinWords (readable : Readable entry) :
    Text.words (joinWords (words entry)) = words entry := by
  apply Text.words_joinWords
  rw [words, List.forall_mem_cons, List.forall_mem_cons, List.forall_mem_singleton]
  have marker : IsWord ['='] :=
    .of_plain (List.cons_ne_nil _ _) (List.forall_mem_singleton.mpr (by decide))
  exact ⟨isWord_of_isIdentifier readable.identifier, marker, isWord_formatValue readable.finite⟩

end Summary

end Reckoner
