import Reckoner.Proofs.Text.Words
import Reckoner.Script
import Reckoner.Text.Phrase

/-!
Contract: the expressions of a script do not depend on how its lines end.

A carriage return and a line feed behind it end one line, and each of them ends
a line on its own. Cutting at every one of these characters gives the same
lines and an empty one between the two, and empty lines hold no expression.
Main statement: the expressions are those of the pieces between these
characters, so any ending may stand for any other, and expressions that are
written one to a line are read back.

Owns: the cut at every ending character, what is kept of a cut, and the three
endings.

Does not own: what the expressions mean.
-/

namespace Reckoner

/-! ### Trimming -/

namespace Text

variable {characters : List Char}

private theorem mem_of_mem_trimBlanks {character : Char}
    (member : character ∈ trimBlanks characters) :
    character ∈ characters := by
  have inReverse := (List.dropWhile_sublist isBlank).mem (List.mem_reverse.mp member)
  exact (List.dropWhile_sublist isBlank).mem (List.mem_reverse.mp inReverse)

private theorem isBlank_of_head?_dropWhile {first : Char}
    (isFirst : (characters.dropWhile isBlank).head? = some first) : isBlank first = false := by
  have notBlank := List.head?_dropWhile_not isBlank characters
  rw [isFirst] at notBlank
  exact notBlank

/-- Trimmed characters neither begin nor end with a blank. -/
theorem ends_trimBlanks (characters : List Char) :
    (∀ first, (trimBlanks characters).head? = some first → isBlank first = false) ∧
      ∀ last, (trimBlanks characters).getLast? = some last → isBlank last = false := by
  constructor
  · intro first isFirst
    rw [trimBlanks, List.head?_reverse] at isFirst
    -- What the second pass leaves has the last character of what it was given.
    have isLast : (characters.dropWhile isBlank).reverse.getLast? = some first := by
      rw [← List.takeWhile_append_dropWhile (p := isBlank)
        (l := (characters.dropWhile isBlank).reverse), List.getLast?_append, isFirst,
        Option.some_or]
    rw [List.getLast?_reverse] at isLast
    exact isBlank_of_head?_dropWhile isLast
  · intro last isLast
    rw [trimBlanks, List.getLast?_reverse] at isLast
    exact isBlank_of_head?_dropWhile isLast

theorem trimBlanks_trimBlanks (characters : List Char) :
    trimBlanks (trimBlanks characters) = trimBlanks characters := by
  have trimmed := trimBlanks_append (List.forall_mem_nil _) (List.forall_mem_nil _)
    (ends_trimBlanks characters).1 (ends_trimBlanks characters).2
  rwa [List.nil_append, List.append_nil] at trimmed

end Text

namespace Script

open Text (isBlank trimBlanks)

/-- An ending of a line. -/
inductive LineEnding where
  | lineFeed
  | carriageReturn
  | both
deriving DecidableEq, Repr

namespace LineEnding

def text : LineEnding → String
  | lineFeed => "\n"
  | carriageReturn => "\r"
  | both => "\r\n"

end LineEnding

def endsLine (character : Char) : Bool :=
  character == '\n' || character == '\r'

/-- The pieces between line feeds and carriage returns, where a carriage return
and the line feed behind it enclose an empty piece. -/
def cut (characters : List Char) : List (List Char) :=
  characters.splitOnP endsLine

/-- The pieces that hold an expression, trimmed. -/
def kept (pieces : List (List Char)) : List (List Char) :=
  (pieces.map trimBlanks).filter isExpression

variable {characters : List Char}

/-! ### What is kept -/

theorem isExpression_iff : isExpression characters = true ↔
    characters ≠ [] ∧ characters.head? ≠ some '#' := by
  cases characters with
  | nil => simp [isExpression]
  | cons first rest => simp [isExpression]

private theorem kept_append (before after : List (List Char)) :
    kept (before ++ after) = kept before ++ kept after := by
  rw [kept, List.map_append, List.filter_append]
  rfl

private theorem kept_nil_cons (pieces : List (List Char)) : kept ([] :: pieces) = kept pieces := rfl

/-- Two cuts of the same characters: they begin alike, and of what stands behind
the first piece the same is kept. -/
inductive KeepAlike : List (List Char) → List (List Char) → Prop where
  | intro {lines pieces : List (List Char)} (first : List Char) (same : kept lines = kept pieces) :
      KeepAlike (first :: lines) (first :: pieces)

theorem KeepAlike.kept_eq {lines pieces : List (List Char)} (alike : KeepAlike lines pieces) :
    kept lines = kept pieces := by
  obtain ⟨first, same⟩ := alike
  rw [← List.singleton_append, kept_append, same, ← kept_append, List.singleton_append]

private theorem cut_cons_of_ends {character : Char} (ends : endsLine character = true)
    (rest : List Char) : cut (character :: rest) = [] :: cut rest := by
  rw [cut, List.splitOnP_cons_eq_if_modifyHead, if_pos ends, cut]

private theorem cut_cons_of_not_ends {character : Char} (goesOn : endsLine character = false)
    (rest : List Char) : cut (character :: rest) = (cut rest).modifyHead (character :: ·) := by
  rw [cut, List.splitOnP_cons_eq_if_modifyHead, if_neg (Bool.eq_false_iff.mp goesOn), cut]

/-- Cutting at every ending character keeps what the lines keep: the piece inside
a double ending is empty. -/
theorem keepAlike_linesOf_cut (characters : List Char) :
    KeepAlike (linesOf characters) (cut characters) := by
  fun_induction linesOf characters with
  | case1 => exact .intro [] rfl
  | case2 rest inductionHypothesis =>
      rw [cut_cons_of_ends rfl, cut_cons_of_ends rfl]
      refine .intro [] ?_
      rw [kept_nil_cons, inductionHypothesis.kept_eq]
  | case3 rest notBoth inductionHypothesis =>
      rw [cut_cons_of_ends rfl]
      exact .intro [] inductionHypothesis.kept_eq
  | case4 rest inductionHypothesis =>
      rw [cut_cons_of_ends rfl]
      exact .intro [] inductionHypothesis.kept_eq
  | case5 character rest notBoth notReturn notFeed noLines inductionHypothesis =>
      rw [noLines] at inductionHypothesis
      cases inductionHypothesis
  | case6 character rest notBoth notReturn notFeed line lines isLines inductionHypothesis =>
      have goesOn : endsLine character = false := by
        rw [endsLine, Bool.or_eq_false_iff, beq_eq_false_iff_ne, beq_eq_false_iff_ne]
        exact ⟨notFeed, notReturn⟩
      rw [isLines] at inductionHypothesis
      rw [cut_cons_of_not_ends goesOn]
      generalize cut rest = cutRest at inductionHypothesis
      cases inductionHypothesis with
      | intro _ same => exact .intro (character :: line) same

/-- What the lines of a content keep is what the cut keeps. -/
theorem expressions_eq_cut (content : String) :
    expressions content = (kept (cut content.toList)).map String.ofList := by
  rw [← (keepAlike_linesOf_cut content.toList).kept_eq]
  rfl

/-! ### Endings -/

/-- Whatever ends a line, the lines before it and those behind it are kept apart. -/
theorem kept_cut_ending (before after : List Char) (ending : LineEnding) :
    kept (cut (before ++ ending.text.toList ++ after)) = kept (cut before) ++ kept (cut after) := by
  have single {character : Char} (ends : endsLine character = true) (rest : List Char) :
      cut (before ++ character :: rest) = cut before ++ cut rest :=
    List.splitOnP_append_cons before rest ends
  rw [List.append_assoc]
  cases ending with
  | lineFeed =>
      change kept (cut (before ++ '\n' :: after)) = _
      rw [single rfl, kept_append]
  | carriageReturn =>
      change kept (cut (before ++ '\r' :: after)) = _
      rw [single rfl, kept_append]
  | both =>
      change kept (cut (before ++ '\r' :: '\n' :: after)) = _
      rw [single rfl, cut_cons_of_ends rfl, kept_append, kept_nil_cons]

theorem expressions_append_ending (before after : String) (ending : LineEnding) :
    expressions (before ++ ending.text ++ after) = expressions before ++ expressions after := by
  rw [expressions_eq_cut, expressions_eq_cut, expressions_eq_cut, String.toList_append,
    String.toList_append, kept_cut_ending, List.map_append]

/-! ### Written expressions -/

theorem not_endsLine_of_mem_cut (characters : List Char) :
    ∀ piece ∈ cut characters, ∀ character ∈ piece, endsLine character = false := by
  induction characters with
  | nil =>
      intro piece member
      have empty : piece = [] := List.mem_singleton.mp member
      rw [empty]
      exact List.forall_mem_nil _
  | cons first rest inductionHypothesis =>
      cases ends : endsLine first with
      | true =>
          rw [cut_cons_of_ends ends]
          exact List.forall_mem_cons.mpr ⟨List.forall_mem_nil _, inductionHypothesis⟩
      | false =>
          rw [cut_cons_of_not_ends ends]
          cases pieces : cut rest with
          | nil => exact absurd pieces (List.splitOnP_ne_nil endsLine rest)
          | cons piece others =>
              rw [pieces, List.forall_mem_cons] at inductionHypothesis
              rw [List.modifyHead_cons, List.forall_mem_cons, List.forall_mem_cons]
              exact ⟨⟨ends, inductionHypothesis.1⟩, inductionHypothesis.2⟩

/-- An expression of a script, alone in another, is the only one there. -/
theorem expressions_of_mem {content text : String} (member : text ∈ expressions content) :
    expressions text = [text] := by
  rw [expressions_eq_cut] at member
  obtain ⟨line, isKept, rfl⟩ := List.mem_map.mp member
  obtain ⟨isLine, holds⟩ := List.mem_filter.mp isKept
  obtain ⟨piece, isPiece, rfl⟩ := List.mem_map.mp isLine
  have oneLine : cut (trimBlanks piece) = [trimBlanks piece] := by
    refine List.splitOnP_eq_singleton fun character inLine => ?_
    exact not_endsLine_of_mem_cut _ piece isPiece character (Text.mem_of_mem_trimBlanks inLine)
  rw [expressions_eq_cut, String.toList_ofList, oneLine, kept, List.map_singleton,
    Text.trimBlanks_trimBlanks, List.filter_cons_of_pos holds, List.filter_nil, List.map_singleton]

variable {content : String}

/-- Expressions with a line feed behind each are read back. -/
theorem expressions_join_lines {texts : List String}
    (areExpressions : ∀ text ∈ texts, text ∈ expressions content) :
    expressions (String.join (texts.map Text.line)) = texts := by
  induction texts with
  | nil => rfl
  | cons text rest inductionHypothesis =>
      rw [List.forall_mem_cons] at areExpressions
      have first : expressions text = [text] := expressions_of_mem areExpressions.1
      rw [List.map_cons, String.join_cons]
      change expressions (text ++ LineEnding.lineFeed.text ++ _) = _
      rw [expressions_append_ending, first, inductionHypothesis areExpressions.2,
        List.singleton_append]

/-- So are expressions with line feeds between them. -/
theorem expressions_intercalate {texts : List String}
    (areExpressions : ∀ text ∈ texts, text ∈ expressions content) :
    expressions ("\n".intercalate texts) = texts := by
  induction texts with
  | nil => rfl
  | cons text rest inductionHypothesis =>
      rw [List.forall_mem_cons] at areExpressions
      have first : expressions text = [text] := expressions_of_mem areExpressions.1
      by_cases single : rest = []
      · rw [single, String.intercalate_singleton, first]
      · rw [String.intercalate_cons_of_ne_nil single]
        change expressions (text ++ LineEnding.lineFeed.text ++ _) = _
        rw [expressions_append_ending, first, inductionHypothesis areExpressions.2,
          List.singleton_append]

/-- **The expressions of a script are the pieces between ending characters**,
trimmed, without those that are empty or begin with `#`. So every ending may be
replaced by any other, whatever stands around it, and the expressions that are
written one to a line are read back. -/
theorem expressions_between_endings (content : String) :
    expressions content =
      (((content.toList.splitOnP fun character => character == '\n' || character == '\r').map
          trimBlanks).filter fun piece => decide (piece ≠ [] ∧ piece.head? ≠ some '#')).map
        String.ofList ∧
    (∀ (before after : String) (ending : LineEnding), content = before ++ ending.text ++ after →
      ∀ other : LineEnding, expressions (before ++ other.text ++ after) = expressions content) ∧
    expressions (String.join ((expressions content).map Text.line)) = expressions content ∧
    expressions ("\n".intercalate (expressions content)) = expressions content := by
  refine ⟨?_, ?_, expressions_join_lines fun _ => id, expressions_intercalate fun _ => id⟩
  · have sameTest :
        isExpression = fun piece => decide (piece ≠ [] ∧ piece.head? ≠ some '#') := by
      funext piece
      rw [Bool.eq_iff_iff, isExpression_iff, decide_eq_true_iff]
    rw [← sameTest]
    exact expressions_eq_cut content
  · rintro before after ending rfl other
    rw [expressions_append_ending, expressions_append_ending]

end Script

end Reckoner
