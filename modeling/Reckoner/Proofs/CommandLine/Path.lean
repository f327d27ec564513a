import Mathlib.Data.List.TakeWhile
import Reckoner.CommandLine.Run

/-!
Contract: the name of the saved table, as a path.

The name under which a script's table is saved leads to the directory of the
script; only the last part may be another one. Main statements: a path and the name
made of it have the same parts before the last, and the name is the path itself
exactly if the last part has the extension already.

Owns: the last part of a path, its replacement, and paths made of parts.

Does not own: what a path leads to.
-/

namespace Reckoner

open FileTree (pathOf)

namespace Path

variable {before last characters : List Char}

/-- Characters that end where a part of a path begins. -/
def EndsAtPart (before : List Char) : Prop :=
  before = [] ∨ ∃ earlier, before = earlier ++ ['/']

theorem EndsAtPart.append (ends : EndsAtPart before) (part : List Char) :
    EndsAtPart (part ++ '/' :: before) := by
  right
  rcases ends with rfl | ⟨earlier, rfl⟩
  · exact ⟨part, rfl⟩
  · exact ⟨part ++ '/' :: earlier, by simp⟩

/-! ### Parts -/

theorem parts_ne_nil (characters : List Char) : parts characters ≠ [] := by
  cases characters with
  | nil => exact List.cons_ne_nil _ _
  | cons character rest =>
      rw [parts]
      split
      · exact List.cons_ne_nil _ _
      · split
        · exact List.cons_ne_nil _ _
        · exact List.cons_ne_nil _ _

theorem parts_append_slash (before after : List Char) :
    parts (before ++ '/' :: after) = parts before ++ parts after := by
  induction before with
  | nil => rfl
  | cons character rest inductionHypothesis =>
      rw [List.cons_append, parts, parts, inductionHypothesis]
      split
      · rfl
      · cases found : parts rest with
        | nil => exact absurd found (parts_ne_nil rest)
        | cons part others => rfl

theorem parts_of_no_slash (single : '/' ∉ last) : parts last = [last] := by
  induction last with
  | nil => rfl
  | cons character rest inductionHypothesis =>
      rw [List.mem_cons, not_or] at single
      rw [parts, if_neg (Ne.symm single.1), inductionHypothesis single.2]

theorem exists_last (characters : List Char) :
    ∃ before last, characters = before ++ last ∧ EndsAtPart before ∧ '/' ∉ last := by
  induction characters with
  | nil => exact ⟨[], [], rfl, .inl rfl, List.not_mem_nil⟩
  | cons character rest inductionHypothesis =>
      obtain ⟨before, last, rfl, ends, single⟩ := inductionHypothesis
      by_cases slash : character = '/'
      · subst slash
        exact ⟨'/' :: before, last, rfl, ends.append [], single⟩
      · rcases ends with rfl | ⟨earlier, rfl⟩
        · refine ⟨[], character :: last, rfl, .inl rfl, ?_⟩
          rw [List.mem_cons, not_or]
          exact ⟨Ne.symm slash, single⟩
        · exact ⟨character :: (earlier ++ ['/']), last, rfl, .inr ⟨character :: earlier, rfl⟩,
            single⟩

/-- The parts of a path depend on what precedes its last part in the same way,
whatever that part is. -/
theorem exists_leading (ends : EndsAtPart before) :
    ∃ leading, ∀ last : List Char, '/' ∉ last → parts (before ++ last) = leading ++ [last] := by
  rcases ends with rfl | ⟨earlier, rfl⟩
  · exact ⟨[], fun last single => parts_of_no_slash single⟩
  · refine ⟨parts earlier, fun last single => ?_⟩
    rw [List.append_assoc, List.singleton_append, parts_append_slash, parts_of_no_slash single]

/-! ### Stems -/

theorem mem_of_mem_stemOfPart {part : List Char} {character : Char}
    (member : character ∈ stemOfPart part) : character ∈ part := by
  unfold stemOfPart at member
  split at member
  · exact member
  · rename_i point reversedStem found
    split at member
    · exact member
    · have within : reversedStem ⊆ part.reverse := by
        intro other isOther
        apply (List.dropWhile_sublist _).subset
        rw [found]
        exact List.mem_cons_of_mem _ isOther
      exact List.mem_reverse.mp (within (List.mem_reverse.mp member))

/-- The extension is cut off where something else than dots stands before it. -/
theorem stemOfPart_append {stem extension : List Char} (plain : '.' ∉ extension)
    (named : ∃ character ∈ stem, character ≠ '.') :
    stemOfPart (stem ++ '.' :: extension) = stem := by
  have undotted : ∀ character ∈ extension.reverse, (character != '.') = true := by
    intro character member
    rw [bne_iff_ne]
    rintro rfl
    exact plain (List.mem_reverse.mp member)
  have stops : ((stem ++ '.' :: extension).reverse.dropWhile (· != '.')) = '.' :: stem.reverse := by
    rw [List.reverse_append, List.reverse_cons, List.append_assoc, List.singleton_append,
      List.dropWhile_append_of_pos undotted, List.dropWhile_cons_of_neg (by simp)]
  have notAll : ¬ stem.reverse.all (· == '.') = true := by
    obtain ⟨character, member, other⟩ := named
    intro all
    exact other (by simpa using List.all_eq_true.mp all character (List.mem_reverse.mpr member))
  rw [stemOfPart, stops]
  dsimp only
  rw [if_neg notAll, List.reverse_reverse]

/-- Where something is cut off, something else than dots is left. -/
theorem exists_ne_dot_of_stemOfPart_ne {part : List Char} (shorter : stemOfPart part ≠ part) :
    ∃ character ∈ stemOfPart part, character ≠ '.' := by
  unfold stemOfPart at shorter ⊢
  split
  · rename_i whole
    rw [whole] at shorter
    exact absurd rfl shorter
  · rename_i point reversedStem found
    rw [found] at shorter
    dsimp only at shorter
    split
    · rename_i dots
      rw [if_pos dots] at shorter
      exact absurd rfl shorter
    · rename_i notAll
      simpa using notAll

theorem stem_append (ends : EndsAtPart before) (single : '/' ∉ last) :
    stem (before ++ last) = before ++ stemOfPart last := by
  have noSlash : ∀ character ∈ last.reverse, (character != '/') = true := by
    intro character member
    rw [bne_iff_ne]
    rintro rfl
    exact single (List.mem_reverse.mp member)
  have stops : before.reverse.takeWhile (· != '/') = [] := by
    rcases ends with rfl | ⟨earlier, rfl⟩
    · rfl
    · simp
  have lastPart : ((before ++ last).reverse.takeWhile (· != '/')).reverse = last := by
    rw [List.reverse_append, List.takeWhile_append_of_pos noSlash, stops, List.append_nil,
      List.reverse_reverse]
  rw [stem, lastPart, List.length_append, Nat.add_sub_cancel, List.take_left]

end Path

/-! ### The name of the saved table -/

open Reckoner.Path (EndsAtPart)

/-- The last part of the name under which a script's table is saved. -/
def csvPart (part : List Char) : List Char :=
  Path.stemOfPart part ++ ".csv".toList

theorem slash_not_mem_csvPart {last : List Char} (single : '/' ∉ last) : '/' ∉ csvPart last := by
  intro member
  rcases List.mem_append.mp member with inStem | inExtension
  · exact single (Path.mem_of_mem_stemOfPart inStem)
  · exact absurd inExtension (by decide)

theorem four_le_length_csvPart (last : List Char) : 4 ≤ (csvPart last).length := by
  have extension : ".csv".toList.length = 4 := by decide
  rw [csvPart, List.length_append, extension]
  omega

/-- The last part of the name is the same exactly if it is an extension behind something
else than dots. -/
theorem csvPart_eq_self_iff {last : List Char} :
    csvPart last = last ↔
      ∃ stem, last = stem ++ ".csv".toList ∧ ∃ character ∈ stem, character ≠ '.' := by
  constructor
  · intro same
    have shorter : Path.stemOfPart last ≠ last := by
      intro whole
      rw [csvPart, whole] at same
      exact absurd (List.append_right_eq_self.mp same) (by decide)
    exact ⟨Path.stemOfPart last, same.symm, Path.exists_ne_dot_of_stemOfPart_ne shorter⟩
  · rintro ⟨stem, rfl, named⟩
    have plain : '.' ∉ "csv".toList := by decide
    have cut : Path.stemOfPart (stem ++ ".csv".toList) = stem := Path.stemOfPart_append plain named
    rw [csvPart, cut]

theorem toList_csvName {path : String} {before last : List Char} (ends : EndsAtPart before)
    (single : '/' ∉ last) (spelled : path.toList = before ++ last) :
    (Run.csvName path).toList = before ++ csvPart last := by
  rw [Run.csvName, Path.withExtension, String.toList_ofList, spelled,
    Path.stem_append ends single, csvPart, List.append_assoc]
  rfl

theorem csvName_eq_self_iff_of_append {path : String} {before last : List Char}
    (ends : EndsAtPart before) (single : '/' ∉ last) (spelled : path.toList = before ++ last) :
    Run.csvName path = path ↔ csvPart last = last := by
  rw [← String.toList_inj, toList_csvName ends single spelled, spelled, List.append_cancel_left_eq]

theorem exists_before (directory : List (List Char)) :
    ∃ before, EndsAtPart before ∧
      ∀ last, ['/'].intercalate (directory ++ [last]) = before ++ last := by
  induction directory with
  | nil => exact ⟨[], .inl rfl, fun last => List.intercalate_singleton⟩
  | cons part rest inductionHypothesis =>
      obtain ⟨before, ends, joined⟩ := inductionHypothesis
      refine ⟨part ++ '/' :: before, ends.append part, fun last => ?_⟩
      rw [List.cons_append, List.intercalate_cons_of_ne_nil (by simp), joined]
      simp

/-- The table of a file in a directory is saved in that directory. -/
theorem csvName_pathOf (directory : List (List Char)) {last : List Char} (single : '/' ∉ last) :
    Run.csvName (pathOf (directory ++ [last])) = pathOf (directory ++ [csvPart last]) := by
  obtain ⟨before, ends, joined⟩ := exists_before directory
  have spelled : (pathOf (directory ++ [last])).toList = before ++ last := by
    rw [pathOf, String.toList_ofList, joined]
  apply String.toList_injective
  rw [toList_csvName ends single spelled, pathOf, String.toList_ofList, joined]

end Reckoner
