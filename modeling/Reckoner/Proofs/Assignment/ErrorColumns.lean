import Mathlib.Data.List.DropRight
import Reckoner.Proofs.Assignment.Compound
import Reckoner.Proofs.Decimal.PlainNumeral
import Reckoner.Proofs.Parentheses.Mismatch
import Reckoner.Proofs.Parentheses.Places

/-!
Contract: the word that the column of an error stands for.

An unbound variable and a parenthesis without partner are reported at a column.
The words of an expression are counted from its beginning, and the source of an
assignment is an expression of its own. Main statement: a column counts the words
behind the last marker, and the word at it is the one that the error is about.
So it is a place in the text exactly where the text has no marker.

Owns: the column that a message reports, the word that an error is about, and
where that word stands in a text.

Does not own: which error an evaluation fails with.
-/

namespace Reckoner

open Grammar (depthChange)

variable {words source : List String} {table left : Table} {error : EvalError} {place : Nat}

/-! ### The column of a message -/

namespace EvalError

/-- The message ends with a column. -/
def ReportsColumn (error : EvalError) (column : Nat) : Prop :=
  ∃ cause, error.message = cause ++ " at column " ++ toString column

/-- The column of an unbound variable or of a parenthesis without partner. -/
def column? : EvalError → Option Int
  | .undefinedVariable _ column => column
  | .mismatchedParentheses (.unmatchedClose column) => some column
  | .mismatchedParentheses (.unmatchedOpen column) => some column
  | _ => none

/-- The digits with which a text ends. -/
def endDigits (text : String) : List Char :=
  text.toList.rtakeWhile Char.isDigit

private theorem endDigits_column (cause : String) (column : Nat) :
    endDigits (cause ++ " at column " ++ toString column) = Nat.toDigits 10 column := by
  have areDigits : ∀ character ∈ (Nat.toDigits 10 column).reverse, character.isDigit = true :=
    fun character member => isDigit_of_mem_toDigits (List.mem_reverse.mp member)
  have characters : (cause ++ " at column " ++ toString column).toList.reverse =
      (Nat.toDigits 10 column).reverse ++ ' ' :: (" at column".toList.reverse ++
        cause.toList.reverse) := by
    rw [Nat.toString_eq_ofList_toDigits]
    simp
  rw [endDigits, List.rtakeWhile, characters, List.takeWhile_append_of_pos areDigits,
    List.takeWhile_cons_of_neg (by decide), List.append_nil, List.reverse_reverse]

private theorem endDigits_not_defined (cause : String) :
    endDigits (cause ++ " not defined") = [] := by
  have characters : (cause ++ " not defined").toList.reverse =
      'd' :: (" not define".toList.reverse ++ cause.toList.reverse) := by simp
  rw [endDigits, List.rtakeWhile, characters, List.takeWhile_cons_of_neg (by decide),
    List.reverse_nil]

/-- A message reports at most one column. -/
theorem ReportsColumn.unique {column other : Nat} (reports : error.ReportsColumn column)
    (reportsOther : error.ReportsColumn other) : column = other := by
  obtain ⟨cause, ends⟩ := reports
  obtain ⟨otherCause, endsToo⟩ := reportsOther
  have sameDigits : Nat.toDigits 10 column = Nat.toDigits 10 other := by
    rw [← endDigits_column cause, ← ends, endsToo, endDigits_column]
  calc
    column = Nat.ofDigitChars 10 (Nat.toDigits 10 column) 0 := Nat.ofDigitChars_ten_toDigits.symm
    _ = Nat.ofDigitChars 10 (Nat.toDigits 10 other) 0 := by rw [sameDigits]
    _ = other := Nat.ofDigitChars_ten_toDigits

private theorem reportsColumn_of_column? {column : Nat}
    (located : error.column? = some (column : Int)) :
    error.ReportsColumn column := by
  have written : toString (column : Int) = toString column :=
    Int.toString_eq_repr.trans Nat.toString_eq_repr.symm
  cases error with
  | undefinedVariable name reported =>
      cases located
      refine ⟨"Variable " ++ Text.enclosed name ++ " not defined", ?_⟩
      change "Variable " ++ Text.enclosed name ++ (" not defined" ++ " at column ") ++ _ = _
      rw [← written, ← String.append_assoc]
  | mismatchedParentheses cause =>
      cases cause with
      | unmatchedClose reported =>
          cases located
          refine ⟨"Unmatched ')'", ?_⟩
          rw [← written]
          rfl
      | unmatchedOpen reported =>
          cases located
          refine ⟨"Unmatched '('", ?_⟩
          rw [← written]
          rfl
  | _ => cases located

/-- A look-up without a column reports none. -/
theorem ReportsColumn.exists_column? {column : Nat} (reports : error.ReportsColumn column)
    (kind : error.kind = .undefinedVariable ∨ error.kind = .mismatchedParentheses) :
    ∃ located, error.column? = some located := by
  cases error with
  | undefinedVariable name reported =>
      cases reported with
      | some located => exact ⟨located, rfl⟩
      | none =>
          obtain ⟨cause, ends⟩ := reports
          have noDigits : Nat.toDigits 10 column = [] := by
            rw [← endDigits_column cause, ← ends]
            exact endDigits_not_defined _
          exact absurd noDigits Nat.toDigits_ne_nil
  | mismatchedParentheses cause =>
      cases cause with
      | unmatchedClose located => exact ⟨located, rfl⟩
      | unmatchedOpen located => exact ⟨located, rfl⟩
  | _ => simp [EvalError.kind] at kind

end EvalError

/-! ### The words of tokens -/

namespace Token

private theorem exists_word_of_getElem?_ofWords {token : Token}
    (found : (ofWords words)[place]? = some token) :
    ∃ word, words[place]? = some word ∧ token.lexeme = Lexeme.ofWord word ∧
      token.column = (place : Int) + 1 := by
  obtain ⟨inside, rfl⟩ := List.getElem?_eq_some_iff.mp found
  have bound : place < words.length := by simpa [ofWords] using inside
  exact ⟨words[place], List.getElem?_eq_getElem bound, by simp [ofWords],
    column_getElem_ofWords inside⟩

end Token

namespace Lexeme

/-- A plain word is no parenthesis. -/
theorem ofPlainWord_ne {word spelling : String} :
    ofPlainWord word ≠ .openParen spelling ∧ ofPlainWord word ≠ .closeParen spelling := by
  unfold ofPlainWord
  dsimp only
  split
  · exact ⟨nofun, nofun⟩
  · split
    · exact ⟨nofun, nofun⟩
    · split <;> exact ⟨nofun, nofun⟩

private theorem word_of_openParen {word spelling : String}
    (same : ofWord word = .openParen spelling) :
    word = "(" := by
  by_contra notOpen
  rw [ofWord, if_neg notOpen] at same
  split at same
  · cases same
  · split at same
    · cases same
    · split at same
      · cases same
      · exact ofPlainWord_ne.1 same

private theorem word_of_closeParen {word spelling : String}
    (same : ofWord word = .closeParen spelling) :
    word = ")" := by
  by_contra notClose
  rw [ofWord, if_neg notClose] at same
  split at same
  · cases same
  · split at same
    · cases same
    · split at same
      · cases same
      · exact ofPlainWord_ne.2 same

end Lexeme

namespace Token

theorem word_of_opens {token : Token} (found : (ofWords words)[place]? = some token)
    (opens : token.Opens) : words[place]? = some "(" := by
  obtain ⟨word, stands, spells, _⟩ := exists_word_of_getElem?_ofWords found
  obtain ⟨spelling, isOpen⟩ := opens
  rw [stands, Lexeme.word_of_openParen (spells.symm.trans isOpen)]

theorem word_of_closes {token : Token} (found : (ofWords words)[place]? = some token)
    (closes : token.Closes) : words[place]? = some ")" := by
  obtain ⟨word, stands, spells, _⟩ := exists_word_of_getElem?_ofWords found
  obtain ⟨spelling, isClose⟩ := closes
  rw [stands, Lexeme.word_of_closeParen (spells.symm.trans isClose)]

/-- Words that are no parentheses only move the parentheses behind them. -/
theorem unpaired_ofWords_append {before : List String} {kind : Token → Prop} {level : Int}
    (plain : ∀ word ∈ before, word ≠ "(" ∧ word ≠ ")")
    (isKind : ∀ token, kind token ↔ depthChange token = level)
    (parentheses : ∀ token, kind token → token.IsParenthesis) :
    unpaired kind (ofWords (before ++ words)) =
      (before.length + ·) '' unpaired kind (ofWords words) := by
  have sameLexemes : (ofWords (before ++ words)).map Token.lexeme =
      (ofWords before ++ ofWords words).map Token.lexeme := by
    simp only [List.map_append, map_lexeme_ofWords]
  have noParenthesis : ∀ token ∈ ofWords before, ¬ token.IsParenthesis := by
    intro token member isParenthesis
    obtain ⟨place, found⟩ := List.mem_iff_getElem?.mp member
    rcases isParenthesis with opens | closes
    · exact (plain _ (List.mem_of_getElem? (word_of_opens found opens))).1 rfl
    · exact (plain _ (List.mem_of_getElem? (word_of_closes found closes))).2 rfl
  have sameLength : (ofWords before).length = before.length := by simp [ofWords]
  rw [unpaired_of_depthChange isKind (map_depthChange_of_lexemes sameLexemes),
    (Collapses.of_no_parenthesis noParenthesis).unpaired_append parentheses, sameLength]

end Token

/-! ### The word of an error -/

namespace EvalError

/-- The word at the place is the one that the error is about. -/
inductive IsAbout (words : List String) (place : Nat) : EvalError → Prop where
  /-- The word reads the variable or steps it. -/
  | unbound {word name : String} {column : Option Int} (stands : words[place]? = some word)
      (asks : (Lexeme.ofWord word).name? = some name) :
      IsAbout words place (.undefinedVariable name column)
  /-- The word is the first closing parenthesis without partner. -/
  | unmatchedClose {column : Int} (stands : words[place]? = some ")")
      (first : IsLeast (unpaired Token.Closes (Token.ofWords words)) place) :
      IsAbout words place (.mismatchedParentheses (.unmatchedClose column))
  /-- The word is the last open parenthesis without partner, and every closing one
  has a partner. -/
  | unmatchedOpen {column : Int} (stands : words[place]? = some "(")
      (paired : unpaired Token.Closes (Token.ofWords words) = ∅)
      (last : IsGreatest (unpaired Token.Opens (Token.ofWords words)) place) :
      IsAbout words place (.mismatchedParentheses (.unmatchedOpen column))

/-- An error stays about its word when words that are no parentheses are put in
front. -/
theorem IsAbout.behind {before : List String} (about : error.IsAbout words place)
    (plain : ∀ word ∈ before, word ≠ "(" ∧ word ≠ ")") :
    error.IsAbout (before ++ words) (before.length + place) := by
  have moved {word : String} (stands : words[place]? = some word) :
      (before ++ words)[before.length + place]? = some word := by
    rwa [List.getElem?_append_right (Nat.le_add_right _ _), Nat.add_sub_cancel_left]
  have closing : unpaired Token.Closes (Token.ofWords (before ++ words)) =
      (before.length + ·) '' unpaired Token.Closes (Token.ofWords words) :=
    Token.unpaired_ofWords_append plain (fun _ => Token.closes_iff_depthChange) fun _ => .inr
  have opening : unpaired Token.Opens (Token.ofWords (before ++ words)) =
      (before.length + ·) '' unpaired Token.Opens (Token.ofWords words) :=
    Token.unpaired_ofWords_append plain (fun _ => Token.opens_iff_depthChange) fun _ => .inl
  have monotone : Monotone (before.length + ·) := fun _ _ le => Nat.add_le_add_left le _
  cases about with
  | unbound stands asks => exact .unbound (moved stands) asks
  | unmatchedClose stands first =>
      refine .unmatchedClose (moved stands) ?_
      rw [closing]
      exact monotone.map_isLeast first
  | unmatchedOpen stands paired last =>
      refine .unmatchedOpen (moved stands) ?_ ?_
      · rw [closing, paired, Set.image_empty]
      · rw [opening]
        exact monotone.map_isGreatest last

end EvalError

/-! ### Expressions -/

/-- A mismatch is reported by the scan for groups. -/
theorem flatten_of_valueOfTokens_mismatched {tokens : List Token} {cause : UnpairedParenthesis}
    (fails : valueOfTokens tokens = .error (.mismatchedParentheses cause)) :
    flatten tokens = .error (.mismatchedParentheses cause) := by
  rw [valueOfTokens] at fails
  cases scanned : flatten tokens with
  | error fault =>
      rw [scanned] at fails
      cases fails
      rfl
  | ok flat =>
      rw [scanned] at fails
      exact absurd fails reduce_ne_mismatched

section Expressions

variable {resolved : List Token} {column : Int}

/-- The columns of resolved tokens still count the words. -/
theorem column_of_resolved {token : Token}
    (ran : (resolveAll (Token.ofWords words)).runOn table = (.ok resolved, left))
    (found : resolved[place]? = some token) : token.column = (place : Int) + 1 := by
  have sameColumn : (resolved.map Token.column)[place]? =
      ((Token.ofWords words).map Token.column)[place]? := by rw [(runOn_resolveAll_keeps ran).1]
  rw [List.getElem?_map, List.getElem?_map, found] at sameColumn
  obtain ⟨original, isOriginal, same⟩ := Option.map_eq_some_iff.mp sameColumn.symm
  obtain ⟨_, _, _, counts⟩ := Token.exists_word_of_getElem?_ofWords isOriginal
  exact same.symm.trans counts

/-- The column of an error of an expression counts the words up to its own. -/
theorem evaluateWords_isAbout (fails : (evaluateWords words).runOn table = (.error error, left))
    (located : error.column? = some column) :
    ∃ place : Nat, column = place + 1 ∧ error.IsAbout words place := by
  by_cases inside : table.reach (Token.ofWords words) < (Token.ofWords words).length
  · obtain ⟨name, between, asks, ran, _⟩ := runOn_evaluateWords_of_unbound words inside
    rw [ran] at fails
    cases fails
    cases located
    obtain ⟨word, stands, spells, _⟩ :=
      Token.exists_word_of_getElem?_ofWords (List.getElem?_eq_getElem inside)
    rw [spells] at asks
    exact ⟨table.reach (Token.ofWords words), rfl, .unbound stands asks⟩
  · have atEnd : table.reach (Token.ofWords words) = (Token.ofWords words).length :=
      Nat.le_antisymm List.findIdx_le_length (Nat.le_of_not_lt inside)
    obtain ⟨resolved, between, resolves, ran, _⟩ := runOn_evaluateWords_of_bound words atEnd
    rw [ran] at fails
    obtain ⟨noValue, _⟩ := Prod.mk.inj fails
    have ⟨_, sameLevels⟩ := runOn_resolveAll_keeps resolves
    have closing := unpaired_of_depthChange (fun _ => Token.closes_iff_depthChange) sameLevels
    have opening := unpaired_of_depthChange (fun _ => Token.opens_iff_depthChange) sameLevels
    cases error with
    | undefinedVariable name reported =>
        exact absurd noValue (valueOfTokens_ne_undefinedVariable resolved name reported)
    | mismatchedParentheses cause =>
        have scanned := flatten_of_valueOfTokens_mismatched noValue
        cases cause with
        | unmatchedClose reported =>
            cases located
            obtain ⟨place, token, first, found, sameColumn⟩ := isLeast_of_unmatchedClose scanned
            rw [closing] at first
            obtain ⟨⟨other, isOther, closes⟩, _⟩ := first.1
            exact ⟨place, sameColumn.symm.trans (column_of_resolved resolves found),
              .unmatchedClose (Token.word_of_closes isOther closes) first⟩
        | unmatchedOpen reported =>
            cases located
            obtain ⟨paired, place, token, last, found, sameColumn⟩ :=
              isGreatest_of_unmatchedOpen scanned
            rw [closing] at paired
            rw [opening] at last
            obtain ⟨⟨other, isOther, opens⟩, _⟩ := last.1
            exact ⟨place, sameColumn.symm.trans (column_of_resolved resolves found),
              .unmatchedOpen (Token.word_of_opens isOther opens) paired last⟩
    | _ => cases located

end Expressions

/-! ### Assignments -/

namespace Statement

/-- Whether the word is no marker. -/
def isUnmarked (word : String) : Bool :=
  Marker.all.all fun marker => decide (marker.spelling ≠ word)

theorem isUnmarked_iff {word : String} :
    isUnmarked word = true ↔ ∀ marker : Marker, marker.spelling ≠ word := by
  simp only [isUnmarked, List.all_eq_true, decide_eq_true_eq, Marker.mem_all, true_implies]

/-- The number of words up to the last marker. They are no part of an expression. -/
def lead (words : List String) : Nat :=
  (words.rdropWhile isUnmarked).length

example : lead ["a", "+=", "b", "=", "2", "*", "(", "c++", ")"] = 4 := by decide

private theorem lead_eq_zero_iff : lead words = 0 ↔ ∀ marker : Marker, marker.spelling ∉ words := by
  simp only [lead, List.length_eq_zero_iff, List.rdropWhile_eq_nil_iff, isUnmarked_iff]
  exact ⟨fun unmarked marker present => unmarked _ present marker rfl,
    fun absent word present marker same => absent marker (same ▸ present)⟩

private theorem lead_assignment (target : String) (marker : Marker) (source : List String) :
    lead (target :: marker.spelling :: source) = 2 + lead source := by
  have marked : ¬ isUnmarked marker.spelling = true :=
    fun unmarked => isUnmarked_iff.mp unmarked marker rfl
  have parted : (target :: marker.spelling :: source).reverse =
      source.reverse ++ [marker.spelling, target] := by simp
  rw [lead, lead, List.rdropWhile, List.rdropWhile, parted, List.dropWhile_append,
    List.dropWhile_cons_of_neg marked, List.length_reverse, List.length_reverse]
  split
  · rename_i isEmpty
    rw [List.isEmpty_iff.mp isEmpty]
    rfl
  · rw [List.length_append, Nat.add_comm]
    rfl

private theorem plain_assignment {target : String} (identifier : isIdentifier target.toList = true)
    (marker : Marker) : ∀ word ∈ [target, marker.spelling], word ≠ "(" ∧ word ≠ ")" := by
  have notParenthesis : target ≠ "(" ∧ target ≠ ")" := by
    constructor <;>
    · rintro rfl
      exact absurd identifier (by decide)
  intro word present
  rcases List.mem_cons.mp present with rfl | isMarker
  · exact notParenthesis
  · rw [List.mem_singleton.mp isMarker]
    exact marker.spelling_ne_parenthesis

/-- A marker reports no column: it asks for its target, which is no word of an
expression. -/
theorem column?_of_runOn_combine {marker : Marker} {target : String} {value : Binary64}
    (fails : (marker.combine target value).runOn table = (.error error, left)) :
    error.column? = none := by
  cases marker with
  | plain => cases fails
  | compound operator =>
      rw [Marker.combine, EvalM.runOn_bind, runOn_lookUp] at fails
      cases bound : table.get? target with
      | none =>
          rw [bound] at fails
          cases fails
          rfl
      | some current =>
          rw [bound] at fails
          obtain ⟨noValue, _⟩ := Prod.mk.inj fails
          have listed := Operator.apply_failsOnly operator current value error noValue
          cases error with
          | undefinedVariable _ _ | mismatchedParentheses _ =>
              simp [reductionKinds, EvalError.kind] at listed
          | _ => rfl

/-- The column of an error of a statement counts the words behind its last marker. -/
theorem execute_isAbout {statement : Statement} {column : Int}
    (located : error.column? = some column) :
    ∀ {words : List String}, ofWords words = .ok statement →
      statement.execute.runOn table = (.error error, left) →
        ∃ place : Nat, column = place + 1 ∧ error.IsAbout words (lead words + place) := by
  induction statement generalizing left with
  | expression source =>
      intro words reads fails
      have unmarked := unmarked_of_ofWords_eq_ok_expression reads
      rw [ofWords_of_unmarked unmarked] at reads
      cases reads
      rw [execute] at fails
      rw [lead_eq_zero_iff.mpr unmarked]
      simpa only [Nat.zero_add] using evaluateWords_isAbout fails located
  | assignment target marker source inductionHypothesis =>
      intro words reads fails
      obtain ⟨behind, assigns, readsBehind⟩ := form_of_ofWords_eq_ok_assignment reads
      obtain ⟨rfl, identifier, _, _⟩ := Form.ofWords_eq_assignment_iff.mp assigns
      rw [runOn_execute_assignment] at fails
      generalize ran : source.execute.runOn table = run at fails
      obtain ⟨outcome, between⟩ := run
      cases outcome with
      | ok value =>
          -- Only the marker can fail now, and it reports no column.
          dsimp only at fails
          generalize combined : (marker.combine target value).runOn between = result at fails
          obtain ⟨total, after⟩ := result
          cases total with
          | ok result => cases fails
          | error fault =>
              cases fails
              rw [column?_of_runOn_combine combined] at located
              cases located
      | error fault =>
          cases fails
          obtain ⟨place, counts, about⟩ := inductionHypothesis readsBehind ran
          refine ⟨place, counts, ?_⟩
          rw [lead_assignment, Nat.add_assoc]
          exact about.behind (plain_assignment identifier marker)

end Statement

/-! ### Texts -/

/-- **A column counts the words behind the last marker.** Where the message for
an unbound variable or for a parenthesis without partner reports a column, the
error is about the word that many words behind the last marker of the text. So
in a text without markers the column is the place of that word, and in every
other text the words up to the last marker come on top. -/
theorem evaluate_reports_column (text : String) (table left : Table) (error : EvalError)
    (column : Nat) (fails : (evaluate text).runOn table = (.error error, left))
    (kind : error.kind = .undefinedVariable ∨ error.kind = .mismatchedParentheses)
    (reports : error.ReportsColumn column) :
    let words := Text.words text
    (Statement.lead words = 0 ↔ ∀ marker : Marker, marker.spelling ∉ words) ∧
    ∃ place : Nat, column = place + 1 ∧ error.IsAbout words (Statement.lead words + place) := by
  intro words
  refine ⟨Statement.lead_eq_zero_iff, ?_⟩
  obtain ⟨reported, located⟩ := reports.exists_column? kind
  rw [runOn_evaluate] at fails
  cases reads : Statement.ofText text with
  | error fault =>
      rw [reads] at fails
      cases fails
      obtain ⟨cause, rfl⟩ := Statement.refused_of_ofWords_eq_error reads
      cases located
  | ok statement =>
      rw [reads] at fails
      obtain ⟨place, rfl, about⟩ := Statement.execute_isAbout located reads fails
      have reportsPlace : error.ReportsColumn (place + 1) :=
        EvalError.reportsColumn_of_column? located
      exact ⟨place, reports.unique reportsPlace, about⟩

theorem evaluate_reports_column_of_cascade :
    ∃ error, (evaluate "a += b = 2 * ( c++ )").runOn ∅ = (.error error, ∅) ∧
      error.kind = .undefinedVariable ∧ error.ReportsColumn 4 ∧
      Statement.lead (Text.words "a += b = 2 * ( c++ )") = 4 ∧
      ∃ place : Nat, 4 = place + 1 ∧
        error.IsAbout (Text.words "a += b = 2 * ( c++ )") (4 + place) := by
  have ran : (evaluate "a += b = 2 * ( c++ )").runOn ∅ =
      (.error (.undefinedVariable "c" (some 4)), ∅) := by decide +kernel
  have lead : Statement.lead (Text.words "a += b = 2 * ( c++ )") = 4 := by decide +kernel
  have reports : (EvalError.undefinedVariable "c" (some 4)).ReportsColumn 4 :=
    EvalError.reportsColumn_of_column? rfl
  have ⟨_, place, counts, about⟩ :=
    evaluate_reports_column "a += b = 2 * ( c++ )" ∅ ∅ _ 4 ran (.inl rfl) reports
  exact ⟨_, ran, rfl, reports, lead, place, counts, lead ▸ about⟩

/-- The column of an error in the source of an assignment is no place in the text. -/
theorem column_of_source_not_place_of_text :
    ∃ error, (evaluate "x = y").runOn ∅ = (.error error, ∅) ∧
      error.kind = .undefinedVariable ∧ error.ReportsColumn 1 ∧
      ¬ ∃ place : Nat, 1 = place + 1 ∧ error.IsAbout (Text.words "x = y") place := by
  have ran : (evaluate "x = y").runOn ∅ = (.error (.undefinedVariable "y" (some 1)), ∅) := by
    decide +kernel
  have words : Text.words "x = y" = ["x", "=", "y"] := by decide +kernel
  have reports : (EvalError.undefinedVariable "y" (some 1)).ReportsColumn 1 :=
    EvalError.reportsColumn_of_column? rfl
  refine ⟨_, ran, rfl, reports, ?_⟩
  rintro ⟨place, counts, about⟩
  obtain rfl : place = 0 := by omega
  rw [words] at about
  cases about with
  | unbound stands asks =>
      cases stands
      exact absurd asks (by decide +kernel)

end Reckoner
