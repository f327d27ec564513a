import Reckoner.Proofs.Assignment.Nesting
import Reckoner.Proofs.Checked.Grouping
import Reckoner.Proofs.Decimal.ReadBack

/-!
Contract: the checked evaluator has no fault.

A word is read as a number only if it has the shape of a numeral. An assignment
looks for its marker by its place, and reads its target as the first of the words
before that place. The text behind a marker is evaluated by a call of its own,
and these calls must not nest deeper than a bound. Main statement: with six
nested calls the checked evaluator does on every table what the evaluator does,
so no operation is ever applied where it has no result.

Owns: checked computations on a table, the checked evaluator, and its agreement
with the evaluator.

Does not own: the checked reduction.
-/

namespace Reckoner

open Statement (Form wordsAfter wordsBefore)
open Text (dropFinalLineFeed joinWords trim)

/-- Checked computations that read and change a table. -/
abbrev CheckedM := ExceptT Stop (StateM Table)

namespace CheckedM

variable {α β : Type}

/-- The outcome of a computation from a table, and the table it leaves. -/
def runOn (computation : CheckedM α) (table : Table) : Checked α × Table :=
  StateT.run (ExceptT.run computation) table

def ofChecked (result : Checked α) : CheckedM α :=
  ExceptT.mk (pure result)

/-- A computation that fails or has a fault keeps its table and skips what follows. -/
theorem runOn_bind (first : CheckedM α) (next : α → CheckedM β) (table : Table) :
    (first >>= next).runOn table =
      match first.runOn table with
      | (.ok value, left) => (next value).runOn left
      | (.error stop, left) => (.error stop, left) := by
  simp only [runOn, ExceptT.run, StateT.run, bind, ExceptT.bind, ExceptT.mk, StateT.bind]
  generalize first table = outcome
  obtain ⟨result, left⟩ := outcome
  cases result with
  | ok value => rfl
  | error stop => rfl

/-- A computation of the evaluator, with its errors reported. -/
def ofEvalM (computation : EvalM α) : CheckedM α :=
  ExceptT.adapt Stop.error computation

theorem runOn_ofEvalM (computation : EvalM α) (table : Table) :
    (ofEvalM computation).runOn table =
      (Checked.report (computation.runOn table).1, (computation.runOn table).2) := rfl

theorem ofChecked_ok (value : α) : ofChecked (.ok value) = pure value := rfl

theorem ofChecked_refuse (error : EvalError) :
    ofChecked (Checked.refuse error : Checked α) = throw (.error error) := rfl

theorem ofEvalM_pure (value : α) : ofEvalM (pure value) = pure value := rfl

theorem ofEvalM_throw (error : EvalError) :
    ofEvalM (throw error : EvalM α) = throw (.error error) := rfl

theorem ofEvalM_ofExcept (result : Except EvalError α) :
    ofEvalM (EvalM.ofExcept result) = ofChecked (Checked.report result) := rfl

theorem ofEvalM_bind (first : EvalM α) (next : α → EvalM β) :
    ofEvalM (first >>= next) = ofEvalM first >>= fun value => ofEvalM (next value) := by
  funext table
  show (ofEvalM (first >>= next)).runOn table =
    (ofEvalM first >>= fun value => ofEvalM (next value)).runOn table
  rw [runOn_ofEvalM, EvalM.runOn_bind, runOn_bind, runOn_ofEvalM]
  generalize first.runOn table = outcome
  obtain ⟨result, left⟩ := outcome
  cases result with
  | ok value => rfl
  | error error => rfl

end CheckedM

namespace Checked

open CheckedM (ofChecked ofEvalM)

/-! ### Words -/

/-- The number of a text, whose ends may be blank. -/
def readNumber (text : String) : Checked Binary64 :=
  match Binary64.ofText? (trim text) with
  | some value => .ok value
  | none => fault (.unreadableNumber text)

/-- The lexeme of a word that is neither a parenthesis nor a step. -/
def plainLexeme (word : String) : Checked Lexeme :=
  let body := dropFinalLineFeed word.toList
  if Numeral.Shaped body then do
    let value ← readNumber word
    return .number value
  else if isIdentifier body then return .identifier word
  else if isOperator body then return .operator word
  else return .unknown word

/-- The lexeme that a word spells. -/
def lexeme (word : String) : Checked Lexeme :=
  if word = "(" then return .openParen word
  else if word = ")" then return .closeParen word
  else
    match Step.leading? word.toList with
    | some (direction, name) => return .step (trim (String.ofList name)) direction .before
    | none =>
        match Step.trailing? word.toList with
        | some (direction, name) => return .step (trim (String.ofList name)) direction .after
        | none => plainLexeme word

/-- The tokens of words, with columns from one. -/
def tokens (words : List String) : Checked (List Token) :=
  (words.zipIdx 1).mapM fun (word, column) => do
    let found ← lexeme word
    return ⟨found, column⟩

private theorem plainLexeme_eq (word : String) :
    plainLexeme word = .ok (Lexeme.ofPlainWord word) := by
  unfold plainLexeme Lexeme.ofPlainWord
  dsimp only
  by_cases shape : Numeral.Shaped (dropFinalLineFeed word.toList)
  · obtain ⟨numeral, isNumeral, read⟩ := Numeral.ofText?_trim shape
    rw [if_pos shape, readNumber, read, isNumeral]
    rfl
  · have noNumeral : Numeral.ofChars? (dropFinalLineFeed word.toList) = none := by
      rw [← Option.not_isSome_iff_eq_none, Numeral.isSome_ofChars?_iff]
      exact shape
    rw [if_neg shape, noNumeral]
    split
    · rfl
    · split <;> rfl

/-- **Every word has a lexeme**: what is read as a number is one. -/
theorem lexeme_eq (word : String) : lexeme word = .ok (Lexeme.ofWord word) := by
  unfold lexeme Lexeme.ofWord
  split
  · rfl
  · split
    · rfl
    · cases Step.leading? word.toList with
      | some found => rfl
      | none =>
          cases Step.trailing? word.toList with
          | some found => rfl
          | none => exact plainLexeme_eq word

theorem tokens_eq (words : List String) : tokens words = .ok (Token.ofWords words) := by
  have single (entry : String × Nat) :
      (lexeme entry.1 >>= fun found => (pure ⟨found, entry.2⟩ : Checked Token)) =
        pure ⟨Lexeme.ofWord entry.1, entry.2⟩ := by
    rw [lexeme_eq]
    rfl
  unfold tokens Token.ofWords
  simp only [single]
  exact List.mapM_pure

/-! ### Evaluation -/

/-- The value of the words of an expression. -/
def evaluateWords (words : List String) : CheckedM Binary64 := do
  let read ← ofChecked (tokens words)
  let resolved ← ofEvalM (resolveAll read)
  ofChecked (valueOfTokens resolved)

/-- The value that an assignment binds. -/
def combine (marker : Marker) (target : String) (value : Binary64) : CheckedM Binary64 :=
  match marker with
  | .plain => return value
  | .compound operator => do
      let current ← ofEvalM (lookUp target)
      ofChecked (calculate current value operator.symbol)

/-- Binds the target before a marker to what the marker makes of the value of the
text behind it, which is evaluated as `nested` does. -/
def assignAt (nested : String → CheckedM Binary64) (words : List String) (marker : Marker) :
    CheckedM Binary64 := do
  let place ← ofChecked (placeOf marker.spelling words)
  if words.count marker.spelling ≠ 1 ∨ place = 0 ∨ place = words.length - 1 then
    ofChecked (refuse (.invalidAssignment (.misplacedMarker (joinWords words))))
  else
    let before := words.take place
    let invalid := EvalError.invalidAssignment (.invalidTarget (joinWords before) (joinWords words))
    if before.length ≠ 1 then ofChecked (refuse invalid)
    else do
      let target ← ofChecked (entryAt before 0)
      if !isIdentifier target.toList then ofChecked (refuse invalid)
      else do
        let value ← nested (joinWords (words.drop (place + 1)))
        let result ← combine marker target value
        ofEvalM (assign target result)
        return result

/-- Evaluates a text, and the text behind its marker as `nested` does. -/
def evaluateWith (nested : String → CheckedM Binary64) (text : String) : CheckedM Binary64 :=
  let words := Text.words text
  match Marker.firstIn? words with
  | some marker => assignAt nested words marker
  | none => evaluateWords words

/-- Evaluation by calls that nest at most as deep as the bound below the first. -/
def evaluateWithin : Nat → String → CheckedM Binary64
  | 0 => evaluateWith fun _ => ofChecked (fault .nestedTooDeep)
  | bound + 1 => evaluateWith (evaluateWithin bound)

theorem evaluateWords_eq (words : List String) :
    evaluateWords words = ofEvalM (Reckoner.evaluateWords words) := by
  rw [evaluateWords, tokens_eq, CheckedM.ofChecked_ok, pure_bind, Reckoner.evaluateWords,
    CheckedM.ofEvalM_bind]
  simp only [CheckedM.ofEvalM_ofExcept, valueOfTokens_eq]

theorem combine_eq (marker : Marker) (target : String) (value : Binary64) :
    combine marker target value = ofEvalM (marker.combine target value) := by
  cases marker with
  | plain => rfl
  | compound operator =>
      rw [combine, Marker.combine, CheckedM.ofEvalM_bind]
      simp only [CheckedM.ofEvalM_ofExcept, calculate_symbol]

/-- The target among the words before a marker. -/
theorem targetAt_eq (before : List String) (invalid : EvalError)
    (next : String → CheckedM Binary64) :
    (if before.length ≠ 1 then ofChecked (refuse invalid)
      else do
        let target ← ofChecked (entryAt before 0)
        if !isIdentifier target.toList then ofChecked (refuse invalid) else next target) =
      match Statement.target? before with
      | none => ofChecked (refuse invalid)
      | some target => next target := by
  match before with
  | [] => rfl
  | [word] =>
      rw [if_neg (by simp), Statement.target?]
      show (if !isIdentifier word.toList then ofChecked (refuse invalid) else next word) = _
      cases isIdentifier word.toList <;> rfl
  | first :: second :: rest =>
      rw [if_pos (by simp)]
      rfl

/-- The place of a marker separates the words as its first occurrence does. -/
theorem assignAt_eq (nested : String → CheckedM Binary64) {words : List String} {marker : Marker}
    (present : marker.spelling ∈ words) :
    assignAt nested words marker =
      if marker.spelling ∈ wordsAfter marker.spelling words ∨
          wordsBefore marker.spelling words = [] ∨ wordsAfter marker.spelling words = [] then
        ofChecked (refuse (.invalidAssignment (.misplacedMarker (joinWords words))))
      else
        match Statement.target? (wordsBefore marker.spelling words) with
        | none =>
            ofChecked (refuse (.invalidAssignment
              (.invalidTarget (joinWords (wordsBefore marker.spelling words)) (joinWords words))))
        | some target => do
            let value ← nested (joinWords (wordsAfter marker.spelling words))
            let result ← combine marker target value
            ofEvalM (assign target result)
            return result := by
  have whole := Statement.wordsBefore_append_wordsAfter present
  have first : marker.spelling ∉ wordsBefore marker.spelling words := by
    intro member
    have differs := List.mem_takeWhile_imp member
    simp at differs
  generalize wordsBefore marker.spelling words = before at whole first ⊢
  generalize wordsAfter marker.spelling words = after at whole ⊢
  subst whole
  have count : (before ++ marker.spelling :: after).count marker.spelling =
      after.count marker.spelling + 1 := by
    rw [List.count_append, List.count_eq_zero_of_not_mem first, List.count_cons_self, Nat.zero_add]
  have length : (before ++ marker.spelling :: after).length = before.length + after.length + 1 := by
    rw [List.length_append, List.length_cons, Nat.add_assoc]
  have misplaced :
      ((before ++ marker.spelling :: after).count marker.spelling ≠ 1 ∨ before.length = 0 ∨
          before.length = (before ++ marker.spelling :: after).length - 1) ↔
        (marker.spelling ∈ after ∨ before = [] ∨ after = []) := by
    rw [count, length, ← List.count_pos_iff, ← List.length_eq_zero_iff (l := before),
      ← List.length_eq_zero_iff (l := after)]
    omega
  have taken : (before ++ marker.spelling :: after).take before.length = before :=
    List.take_left
  have dropped : (before ++ marker.spelling :: after).drop (before.length + 1) = after := by
    rw [← List.drop_drop, List.drop_left]
    rfl
  rw [assignAt, placeOf_append first, CheckedM.ofChecked_ok, pure_bind]
  simp only [misplaced, taken, dropped]
  rw [targetAt_eq]

/-- A checked call does what the call does, if the checked calls below it do. -/
theorem evaluateWith_eq {nested : String → Option (EvalM Binary64)}
    {checkedNested : String → CheckedM Binary64}
    (agrees : ∀ {text computation}, nested text = some computation →
      checkedNested text = ofEvalM computation)
    {text : String} {computation : EvalM Binary64}
    (evaluates : Reckoner.evaluateWith nested text = some computation) :
    evaluateWith checkedNested text = ofEvalM computation := by
  rw [Reckoner.evaluateWith, Form.ofWords] at evaluates
  rw [evaluateWith]
  cases found : Marker.firstIn? (Text.words text) with
  | none =>
      rw [found] at evaluates
      dsimp only at evaluates ⊢
      rw [← Option.some.inj evaluates, evaluateWords_eq]
  | some marker =>
      rw [found] at evaluates
      dsimp only at evaluates ⊢
      rw [assignAt_eq checkedNested (Marker.mem_of_firstIn? found)]
      by_cases misplaced :
          marker.spelling ∈ wordsAfter marker.spelling (Text.words text) ∨
            wordsBefore marker.spelling (Text.words text) = [] ∨
              wordsAfter marker.spelling (Text.words text) = []
      · rw [if_pos misplaced] at evaluates ⊢
        dsimp only at evaluates
        rw [← Option.some.inj evaluates, CheckedM.ofChecked_refuse, CheckedM.ofEvalM_throw]
      · rw [if_neg misplaced] at evaluates ⊢
        cases isTarget : Statement.target? (wordsBefore marker.spelling (Text.words text)) with
        | none =>
            rw [isTarget] at evaluates
            dsimp only at evaluates ⊢
            rw [← Option.some.inj evaluates, CheckedM.ofChecked_refuse, CheckedM.ofEvalM_throw]
        | some target =>
            rw [isTarget] at evaluates
            dsimp only at evaluates ⊢
            obtain ⟨inner, evaluatesInner, same⟩ := Option.map_eq_some_iff.mp evaluates
            rw [agrees evaluatesInner, ← same, assignFrom]
            simp only [CheckedM.ofEvalM_bind, CheckedM.ofEvalM_pure, combine_eq]

theorem evaluateWithin_eq {bound : Nat} :
    ∀ {text : String} {computation : EvalM Binary64},
      Reckoner.evaluateWithin bound text = some computation →
        evaluateWithin bound text = ofEvalM computation := by
  induction bound with
  | zero =>
      refine evaluateWith_eq ?_
      intro _ _ impossible
      cases impossible
  | succ bound inductionHypothesis => exact evaluateWith_eq inductionHypothesis

/-- **Every evaluation ends with a value or an error.** The checked evaluator, with
six nested calls at most, does on every table what the evaluator does, and never
applies an operation where it has no result. -/
theorem evaluate_without_fault (text : String) (table : Table) :
    (∃ value left,
        (evaluateWithin 6 text).runOn table = (.ok value, left) ∧
          (evaluate text).runOn table = (.ok value, left)) ∨
      ∃ error left,
        (evaluateWithin 6 text).runOn table = (.error (.error error), left) ∧
          (evaluate text).runOn table = (.error error, left) := by
  have sixMarkers : Marker.all.length ≤ 0 + 6 := by decide
  have evaluates : Reckoner.evaluateWithin 6 text = some (evaluate text) :=
    evaluateWithin_eq_some sixMarkers fun marker _ => marker.rank.zero_le
  rw [evaluateWithin_eq evaluates, CheckedM.runOn_ofEvalM]
  obtain ⟨outcome, left⟩ := (evaluate text).runOn table
  cases outcome with
  | ok value => exact .inl ⟨value, left, rfl, rfl⟩
  | error error => exact .inr ⟨error, left, rfl, rfl⟩

end Checked

end Reckoner
