import Mathlib.Data.Set.Insert
import Reckoner.Proofs.Assignment.Form
import Reckoner.Proofs.Token.Identifier
import Reckoner.Proofs.Token.Mention

/-!
Contract: evaluation sees and changes only the variables that a text mentions.

A computation reads some names and writes some. Tables that agree on what is
read give the same outcome and still agree afterwards, and what is not written
keeps its value. Both hold of results, look-ups and bindings, and sequencing
keeps them; so they hold of every statement, whether or not it fails.

Owns: agreement of tables, the names that a computation touches, and the names
that a text mentions.

Does not own: which value a name gets.
-/

namespace Reckoner

variable {α β : Type} {read written : Set String}

/-- The tables have the same values for the names, or none in either. -/
def Table.AgreeOn (names : Set String) (first second : Table) : Prop :=
  ∀ name ∈ names, first.get? name = second.get? name

theorem Table.AgreeOn.set {names : Set String} {first second : Table}
    (agree : first.AgreeOn names second) (name : String) (value : Binary64) :
    (first.set name value).AgreeOn names (second.set name value) := by
  intro other member
  rw [get?_set, get?_set, agree other member]

namespace EvalM

/-- The computation depends on the values of some names only, and changes the
values of some names only. -/
structure Touches (read written : Set String) (computation : EvalM α) : Prop where
  agrees : ∀ {first second : Table}, first.AgreeOn read second →
    (computation.runOn first).1 = (computation.runOn second).1 ∧
      (computation.runOn first).2.AgreeOn read (computation.runOn second).2
  keeps : ∀ (table : Table) {name : String}, name ∉ written →
    (computation.runOn table).2.get? name = table.get? name

namespace Touches

theorem ofExcept (result : Except EvalError α) : Touches read written (EvalM.ofExcept result) where
  agrees agree := ⟨rfl, agree⟩
  keeps _ _ _ := rfl

theorem pure (value : α) : Touches read written (Pure.pure value : EvalM α) :=
  .ofExcept (.ok value)

theorem bind {first : EvalM α} {next : α → EvalM β} (firstTouches : Touches read written first)
    (nextTouches : ∀ value, Touches read written (next value)) :
    Touches read written (first >>= next) where
  agrees {left right} agree := by
    obtain ⟨sameOutcome, stillAgree⟩ := firstTouches.agrees agree
    rw [runOn_bind, runOn_bind]
    generalize first.runOn left = leftRun at sameOutcome stillAgree
    generalize first.runOn right = rightRun at sameOutcome stillAgree
    obtain ⟨outcome, leftAfter⟩ := leftRun
    obtain ⟨_, rightAfter⟩ := rightRun
    cases sameOutcome
    cases outcome with
    | ok value => exact (nextTouches value).agrees stillAgree
    | error error => exact ⟨rfl, stillAgree⟩
  keeps table name outside := by
    have kept := firstTouches.keeps table outside
    rw [runOn_bind]
    generalize first.runOn table = run at kept
    obtain ⟨outcome, left⟩ := run
    cases outcome with
    | ok value => exact ((nextTouches value).keeps left outside).trans kept
    | error error => exact kept

theorem lookUp {name : String} (isRead : name ∈ read) (column : Option Int) :
    Touches read written (lookUp name column) where
  agrees {first second} agree := by
    rw [runOn_lookUp, runOn_lookUp, agree name isRead]
    cases second.get? name with
    | some value => exact ⟨rfl, agree⟩
    | none => exact ⟨rfl, agree⟩
  keeps table _ _ := by
    rw [runOn_lookUp]
    cases table.get? name with
    | some value => rfl
    | none => rfl

theorem assign {name : String} (isWritten : name ∈ written) (value : Binary64) :
    Touches read written (assign name value) where
  agrees agree := ⟨rfl, agree.set name value⟩
  keeps table other outside := by
    rw [runOn_assign]
    exact Table.get?_set_of_ne fun same => outside (same ▸ isWritten)

end Touches

end EvalM

open EvalM (Touches)

/-! ### Tokens -/

theorem Token.resolve_touches {token : Token}
    (reads : ∀ name, token.lexeme.name? = some name → name ∈ read)
    (writes : ∀ name, token.lexeme.changed? = some name → name ∈ written) :
    Touches read written token.resolve := by
  obtain ⟨lexeme, column⟩ := token
  cases lexeme with
  | identifier name => exact .bind (.lookUp (reads name rfl) _) fun _ => .pure _
  | step name direction placement =>
      refine .bind (.lookUp (reads name rfl) _) fun _ =>
        .bind (.assign (writes name rfl) _) fun _ => ?_
      cases placement with
      | before => exact .pure _
      | after => exact .pure _
  | _ => exact .pure _

theorem resolveAll_touches {tokens : List Token}
    (reads : ∀ token ∈ tokens, ∀ name, token.lexeme.name? = some name → name ∈ read)
    (writes : ∀ token ∈ tokens, ∀ name, token.lexeme.changed? = some name → name ∈ written) :
    Touches read written (resolveAll tokens) := by
  induction tokens with
  | nil => exact .pure _
  | cons token rest inductionHypothesis =>
      have ⟨tokenReads, restReads⟩ := List.forall_mem_cons.mp reads
      have ⟨tokenWrites, restWrites⟩ := List.forall_mem_cons.mp writes
      exact .bind (Token.resolve_touches tokenReads tokenWrites) fun _ =>
        .bind (inductionHypothesis restReads restWrites) fun _ => .pure _

/-! ### Statements -/

/-- The variables that the words ask for. -/
def mentionedBy (words : List String) : Set String :=
  {name | ∃ word ∈ words, (Lexeme.ofWord word).name? = some name}

/-- The variables that steps among the words change. -/
def changedBy (words : List String) : Set String :=
  {name | ∃ word ∈ words, (Lexeme.ofWord word).changed? = some name}

instance (name : String) (words : List String) : Decidable (name ∈ mentionedBy words) :=
  decidable_of_iff (name ∈ words.filterMap fun word => (Lexeme.ofWord word).name?)
    List.mem_filterMap

instance (name : String) (words : List String) : Decidable (name ∈ changedBy words) :=
  decidable_of_iff (name ∈ words.filterMap fun word => (Lexeme.ofWord word).changed?)
    List.mem_filterMap

theorem changedBy_subset_mentionedBy (words : List String) :
    changedBy words ⊆ mentionedBy words :=
  fun _ ⟨word, isWord, changes⟩ => ⟨word, isWord, Lexeme.name?_of_changed? changes⟩

theorem mentionedBy_mono {words more : List String} (part : words ⊆ more) :
    mentionedBy words ⊆ mentionedBy more :=
  fun _ ⟨word, isWord, asks⟩ => ⟨word, part isWord, asks⟩

namespace Statement

/-- The variables that a statement reads or binds. -/
def mentioned : Statement → Set String
  | .expression words => mentionedBy words
  | .assignment target _ source => insert target source.mentioned

/-- The variables that a statement may give a new value. -/
def changed : Statement → Set String
  | .expression words => changedBy words
  | .assignment target _ source => insert target source.changed

private theorem changed_subset_mentioned (statement : Statement) :
    statement.changed ⊆ statement.mentioned := by
  induction statement with
  | expression words => exact changedBy_subset_mentionedBy words
  | assignment target marker source inductionHypothesis =>
      exact Set.insert_subset_insert inductionHypothesis

end Statement

private theorem Token.exists_word_of_mem_ofWords {words : List String} {token : Token}
    (member : token ∈ Token.ofWords words) : ∃ word ∈ words, token.lexeme = Lexeme.ofWord word := by
  obtain ⟨⟨word, column⟩, numbered, rfl⟩ := List.mem_map.mp member
  exact ⟨word, List.fst_mem_of_mem_zipIdx numbered, rfl⟩

theorem evaluateWords_touches {words : List String} (reads : mentionedBy words ⊆ read)
    (writes : changedBy words ⊆ written) : Touches read written (evaluateWords words) := by
  refine .bind (resolveAll_touches ?_ ?_) fun _ => .ofExcept _
  · intro token member name asks
    obtain ⟨word, isWord, spells⟩ := Token.exists_word_of_mem_ofWords member
    exact reads ⟨word, isWord, spells ▸ asks⟩
  · intro token member name changes
    obtain ⟨word, isWord, spells⟩ := Token.exists_word_of_mem_ofWords member
    exact writes ⟨word, isWord, spells ▸ changes⟩

theorem Marker.combine_touches (marker : Marker) {target : String} (isRead : target ∈ read)
    (value : Binary64) : Touches read written (marker.combine target value) := by
  cases marker with
  | plain => exact .pure value
  | compound operator => exact .bind (.lookUp isRead none) fun _ => .ofExcept _

theorem Statement.execute_touches {statement : Statement} (reads : statement.mentioned ⊆ read)
    (writes : statement.changed ⊆ written) : Touches read written statement.execute := by
  induction statement with
  | expression words => exact evaluateWords_touches reads writes
  | assignment target marker source inductionHypothesis =>
      obtain ⟨targetRead, sourceReads⟩ := Set.insert_subset_iff.mp reads
      obtain ⟨targetWritten, sourceWrites⟩ := Set.insert_subset_iff.mp writes
      exact .bind (inductionHypothesis sourceReads sourceWrites) fun value =>
        .bind (marker.combine_touches targetRead value) fun result =>
          .bind (.assign targetWritten result) fun _ => .pure result

/-! ### Texts -/

/-- A statement mentions what its words mention. -/
theorem Statement.mentioned_subset_of_ofWords {words : List String} {statement : Statement}
    (spelled : ofWords words = .ok statement) : statement.mentioned ⊆ mentionedBy words := by
  induction statement generalizing words with
  | expression source =>
      have same := ofWords_of_unmarked (unmarked_of_ofWords_eq_ok_expression spelled)
      rw [same] at spelled
      cases spelled
      exact subset_rfl
  | assignment target marker source inductionHypothesis =>
      obtain ⟨after, assigns, spellsSource⟩ := form_of_ofWords_eq_ok_assignment spelled
      obtain ⟨rfl, identifier, _, _⟩ := Form.ofWords_eq_assignment_iff.mp assigns
      refine Set.insert_subset_iff.mpr ⟨⟨target, List.mem_cons_self, ?_⟩, ?_⟩
      · rw [Lexeme.ofWord_of_isIdentifier identifier]
        rfl
      · refine (inductionHypothesis spellsSource).trans (mentionedBy_mono fun word member => ?_)
        exact List.mem_cons_of_mem _ (List.mem_cons_of_mem _ member)

/-- The variables that a text mentions: the identifiers among its words, and the
names of the steps among them. -/
def Text.mentioned (text : String) : Set String :=
  mentionedBy (Text.words text)

instance (name text : String) : Decidable (name ∈ Text.mentioned text) :=
  inferInstanceAs (Decidable (name ∈ mentionedBy (Text.words text)))

theorem evaluate_touches (text : String) :
    Touches (Text.mentioned text) (Text.mentioned text) (evaluate text) := by
  rw [evaluate]
  cases spelled : Statement.ofText text with
  | error error => exact .ofExcept (.error error)
  | ok statement =>
      have within := Statement.mentioned_subset_of_ofWords spelled
      rw [EvalM.ofExcept_ok_bind]
      exact Statement.execute_touches within (statement.changed_subset_mentioned.trans within)

/-- **Evaluation is local.** On two tables that agree on the variables that a
text mentions it has the same outcome and leaves tables that agree on them
still, and on any table it leaves every other variable as it was. -/
theorem evaluate_local (text : String) (first second : Table)
    (agree : first.AgreeOn (Text.mentioned text) second) :
    ((evaluate text).runOn first).1 = ((evaluate text).runOn second).1 ∧
      ((evaluate text).runOn first).2.AgreeOn (Text.mentioned text)
        ((evaluate text).runOn second).2 ∧
      (∀ name ∉ Text.mentioned text,
        ((evaluate text).runOn first).2.get? name = first.get? name) ∧
      ∀ name ∉ Text.mentioned text,
        ((evaluate text).runOn second).2.get? name = second.get? name := by
  have touches := evaluate_touches text
  obtain ⟨sameOutcome, stillAgree⟩ := touches.agrees agree
  exact ⟨sameOutcome, stillAgree, fun _ outside => touches.keeps first outside,
    fun _ outside => touches.keeps second outside⟩

theorem evaluate_local_of_failing_cascade :
    ∃ first second : Table, first.AgreeOn (Text.mentioned "x += y = ++z") second ∧
      first.get? "w" ≠ second.get? "w" ∧
      ((evaluate "x += y = ++z").runOn first).1 = .error (.undefinedVariable "x" none) ∧
      ((evaluate "x += y = ++z").runOn first).1 = ((evaluate "x += y = ++z").runOn second).1 ∧
      ((evaluate "x += y = ++z").runOn first).2.AgreeOn (Text.mentioned "x += y = ++z")
        ((evaluate "x += y = ++z").runOn second).2 ∧
      ((evaluate "x += y = ++z").runOn first).2.get? "w" = first.get? "w" ∧
      ((evaluate "x += y = ++z").runOn second).2.get? "w" = second.get? "w" := by
  let zSet : Table := (∅ : Table).set "z" .one
  have outside : "w" ∉ Text.mentioned "x += y = ++z" := by decide +kernel
  have agree : zSet.AgreeOn (Text.mentioned "x += y = ++z") (zSet.set "w" .one) := by
    intro name member
    have different : name ≠ "w" := fun same => outside (same ▸ member)
    rw [Table.get?_set_of_ne different]
  obtain ⟨sameOutcome, stillAgree, keptFirst, keptSecond⟩ := evaluate_local _ _ _ agree
  exact ⟨zSet, zSet.set "w" .one, agree, by decide +kernel, by decide +kernel, sameOutcome,
    stillAgree, keptFirst _ outside, keptSecond _ outside⟩

end Reckoner
