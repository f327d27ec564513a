import Mathlib.Data.List.TakeWhile
import Reckoner.Text.Words

/-!
Contract: the words of a text, read in one pass.

Normalization pads parentheses, collapses blanks and trims, each over the whole
text. `scan` reads the words in a single pass instead. Main statements: the
words of a text are those of the scan, and words joined by single spaces are
read back as they were.

Owns: the scan, its equality with normalization, and which lists are the words
of a text.

Does not own: what the words mean.
-/

namespace Reckoner.Text

def isParenthesis (character : Char) : Bool :=
  character == '(' || character == ')'

/-- A word that is complete, if it holds anything, before the later ones. -/
def endWord (word : List Char) (later : List (List Char)) : List (List Char) :=
  if word = [] then later else word :: later

/-- The words of the characters, of which the first one is begun already. -/
def scanFrom (word : List Char) : List Char → List (List Char)
  | [] => endWord word []
  | character :: rest =>
      if isBlank character then endWord word (scanFrom [] rest)
      else if isParenthesis character then endWord word ([character] :: scanFrom [] rest)
      else scanFrom (word ++ [character]) rest

def scan (characters : List Char) : List (List Char) :=
  scanFrom [] characters

/-- The runs of characters between blanks, of which the first one is begun already. -/
def runsFrom (run : List Char) : List Char → List (List Char)
  | [] => endWord run []
  | character :: rest =>
      if isBlank character then endWord run (runsFrom [] rest)
      else runsFrom (run ++ [character]) rest

/-- A run has no blanks and is not empty. -/
def IsRun (run : List Char) : Prop :=
  run ≠ [] ∧ ∀ character ∈ run, isBlank character = false

def joinRuns (runs : List (List Char)) : List Char :=
  [' '].intercalate runs

/-! ### Ended words -/

theorem endWord_of_ne_nil {word : List Char} (started : word ≠ []) (later : List (List Char)) :
    endWord word later = word :: later :=
  if_neg started

theorem mem_endWord {word found : List Char} {later : List (List Char)}
    (member : found ∈ endWord word later) : found = word ∧ word ≠ [] ∨ found ∈ later := by
  unfold endWord at member
  split at member
  · exact .inr member
  · rename_i started
    exact (List.mem_cons.mp member).imp_left fun same => ⟨same, started⟩

/-! ### Padding -/

theorem isBlank_of_isParenthesis {character : Char} (paren : isParenthesis character = true) :
    isBlank character = false := by
  simp only [isParenthesis, Bool.or_eq_true, beq_iff_eq] at paren
  rcases paren with rfl | rfl
  · decide
  · decide

/-- The ASCII characters from the asterisk on, and a few after them, are plain. -/
theorem plain_of_toNat {character : Char} (above : 42 ≤ character.toNat)
    (below : character.toNat < 133) :
    isBlank character = false ∧ isParenthesis character = false := by
  have notOpen : character ≠ '(' := by
    rintro rfl
    exact absurd above (by decide)
  have notClose : character ≠ ')' := by
    rintro rfl
    exact absurd above (by decide)
  constructor
  · rw [isBlank, CharTable.contains, blanks, CharTable.covers, if_neg (by omega),
      if_neg (by omega), CharTable.covers, if_neg (by omega), if_neg (by omega),
      CharTable.covers, if_pos (by omega)]
  · simp [isParenthesis, notOpen, notClose]

private theorem padParentheses_cons (character : Char) (rest : List Char) :
    padParentheses (character :: rest) =
      if isParenthesis character then ' ' :: character :: ' ' :: padParentheses rest
      else character :: padParentheses rest := by
  have sameTest : (character = '(' ∨ character = ')') ↔ isParenthesis character = true := by
    simp [isParenthesis]
  simp only [padParentheses, List.flatMap_cons, sameTest]
  split <;> rfl

/-- Padded parentheses are runs of their own. -/
theorem runsFrom_padParentheses (characters : List Char) :
    ∀ word, runsFrom word (padParentheses characters) = scanFrom word characters := by
  have spaceBlank : isBlank ' ' = true := by decide
  induction characters with
  | nil => exact fun _ => rfl
  | cons character rest inductionHypothesis =>
      intro word
      rw [padParentheses_cons]
      by_cases paren : isParenthesis character = true
      · have visible := isBlank_of_isParenthesis paren
        have alone : endWord [character] (scanFrom [] rest) = [character] :: scanFrom [] rest :=
          rfl
        simp only [runsFrom, scanFrom, paren, visible, spaceBlank, if_true, Bool.false_eq_true,
          if_false, List.nil_append, inductionHypothesis, alone]
      · simp only [Bool.not_eq_true] at paren
        simp only [runsFrom, scanFrom, paren, Bool.false_eq_true, if_false, inductionHypothesis]

/-! ### Collapsing and trimming -/

theorem joinRuns_endWord {word : List Char} (started : word ≠ []) (later : List (List Char)) :
    joinRuns (endWord word later) =
      if later = [] then word else word ++ ' ' :: joinRuns later := by
  rw [endWord_of_ne_nil started, joinRuns, joinRuns]
  by_cases last : later = []
  · rw [if_pos last, last, List.intercalate_singleton]
  · rw [if_neg last, List.intercalate_cons_of_ne_nil last]
    simp

private theorem runsFrom_ne_nil (characters : List Char) {run : List Char} (started : run ≠ []) :
    runsFrom run characters ≠ [] := by
  induction characters generalizing run with
  | nil =>
      rw [runsFrom, endWord_of_ne_nil started]
      exact List.cons_ne_nil _ _
  | cons character rest inductionHypothesis =>
      unfold runsFrom
      split
      · rw [endWord_of_ne_nil started]
        exact List.cons_ne_nil _ _
      · exact inductionHypothesis (by simp)

/-- Collapsed characters are the runs joined by spaces, up to a space at the
end. Inside a run the characters of the run come first; after a blank nothing
does, and without any run nothing is left. -/
theorem collapseBlanks_eq (characters : List Char) :
    (∀ run, run ≠ [] → ∃ last, (last = [] ∨ last = [' ']) ∧
      run ++ collapseBlanks false characters = joinRuns (runsFrom run characters) ++ last) ∧
    ∃ last, (last = [] ∨ last = [' ']) ∧ (runsFrom [] characters = [] → last = []) ∧
      collapseBlanks true characters = joinRuns (runsFrom [] characters) ++ last := by
  induction characters with
  | nil =>
      constructor
      · intro run started
        refine ⟨[], .inl rfl, ?_⟩
        rw [runsFrom, joinRuns_endWord started]
        simp [collapseBlanks]
      · exact ⟨[], .inl rfl, fun _ => rfl, rfl⟩
  | cons character rest inductionHypothesis =>
      rcases inductionHypothesis with ⟨insideRun, last, isLast, noRun, afterBlank⟩
      cases blank : isBlank character with
      | true =>
          constructor
          · intro run started
            simp only [collapseBlanks, runsFrom, blank, if_true, Bool.false_eq_true, if_false]
            rw [joinRuns_endWord started, afterBlank]
            by_cases finished : runsFrom [] rest = []
            · refine ⟨[' '], .inr rfl, ?_⟩
              rw [if_pos finished, noRun finished, finished]
              rfl
            · refine ⟨last, isLast, ?_⟩
              rw [if_neg finished]
              simp
          · refine ⟨last, isLast, ?_, ?_⟩
            · intro finished
              apply noRun
              simpa only [runsFrom, blank, if_true, endWord] using finished
            · simpa only [collapseBlanks, runsFrom, blank, if_true, endWord] using afterBlank
      | false =>
          constructor
          · intro run started
            rcases insideRun (run ++ [character]) (by simp) with ⟨last, isLast, collapsed⟩
            refine ⟨last, isLast, ?_⟩
            simp only [collapseBlanks, runsFrom, blank, Bool.false_eq_true, if_false]
            rw [← collapsed]
            simp
          · rcases insideRun [character] (by simp) with ⟨last, isLast, collapsed⟩
            have begun : runsFrom [] (character :: rest) = runsFrom [character] rest := by
              simp only [runsFrom, blank, Bool.false_eq_true, if_false, List.nil_append]
            refine ⟨last, isLast, ?_, ?_⟩
            · intro finished
              rw [begun] at finished
              exact absurd finished (runsFrom_ne_nil rest (by simp))
            · rw [begun, ← collapsed]
              simp only [collapseBlanks, blank, Bool.false_eq_true, if_false]
              rfl

private theorem isRun_of_mem_runsFrom (characters : List Char) :
    ∀ run, (∀ character ∈ run, isBlank character = false) →
      ∀ found ∈ runsFrom run characters, IsRun found := by
  induction characters with
  | nil =>
      intro run visible found member
      rcases mem_endWord member with ⟨rfl, started⟩ | impossible
      · exact ⟨started, visible⟩
      · cases impossible
  | cons character rest inductionHypothesis =>
      intro run visible found member
      unfold runsFrom at member
      split at member
      · rcases mem_endWord member with ⟨rfl, started⟩ | isLater
        · exact ⟨started, visible⟩
        · exact inductionHypothesis [] (by simp) found isLater
      · rename_i notBlank
        apply inductionHypothesis (run ++ [character]) ?_ found member
        intro other otherMember
        rcases List.mem_append.mp otherMember with before | isLast
        · exact visible other before
        · rw [List.mem_singleton.mp isLast]
          simpa using notBlank

private theorem joinRuns_ne_nil {runs : List (List Char)} (areRuns : ∀ run ∈ runs, IsRun run)
    (nonempty : runs ≠ []) : joinRuns runs ≠ [] := by
  cases runs with
  | nil => exact absurd rfl nonempty
  | cons run rest =>
      have started := (areRuns run (List.mem_cons_self ..)).1
      by_cases single : rest = []
      · rw [single, joinRuns, List.intercalate_singleton]
        exact started
      · rw [joinRuns, List.intercalate_cons_of_ne_nil single]
        simp [started]

/-- Joined runs neither begin nor end with a blank. -/
theorem ends_joinRuns {runs : List (List Char)} (areRuns : ∀ run ∈ runs, IsRun run) :
    (∀ first, (joinRuns runs).head? = some first → isBlank first = false) ∧
      ∀ last, (joinRuns runs).getLast? = some last → isBlank last = false := by
  induction runs with
  | nil => simp [joinRuns]
  | cons run rest inductionHypothesis =>
      have isRun := areRuns run (List.mem_cons_self ..)
      have restRuns : ∀ other ∈ rest, IsRun other := fun other member =>
        areRuns other (List.mem_cons_of_mem _ member)
      by_cases single : rest = []
      · rw [single, joinRuns, List.intercalate_singleton]
        exact ⟨fun first isFirst => isRun.2 first (List.mem_of_head? isFirst),
          fun last isLast => isRun.2 last (List.mem_of_getLast? isLast)⟩
      · have joined : joinRuns (run :: rest) = run ++ ' ' :: joinRuns rest := by
          rw [joinRuns, List.intercalate_cons_of_ne_nil single, List.append_assoc]
          rfl
        rw [joined]
        constructor
        · intro first isFirst
          cases run with
          | nil => exact absurd rfl isRun.1
          | cons character more =>
              injection isFirst with same
              exact isRun.2 first (same ▸ List.mem_cons_self ..)
        · intro last isLast
          rw [List.getLast?_append, List.getLast?_cons_of_ne_nil (joinRuns_ne_nil restRuns single)]
            at isLast
          rw [Option.or_of_isSome (by simp [joinRuns_ne_nil restRuns single])] at isLast
          exact (inductionHypothesis restRuns).2 last isLast

private theorem dropWhile_isBlank_eq_self {characters : List Char}
    (visible : ∀ first, characters.head? = some first → isBlank first = false) :
    characters.dropWhile isBlank = characters := by
  cases characters with
  | nil => rfl
  | cons first rest => rw [List.dropWhile_cons_of_neg (by simp [visible first rfl])]

/-- Trimming removes the blanks around characters that neither begin nor end
with one. -/
theorem trimBlanks_append {before middle after : List Char}
    (blankBefore : ∀ character ∈ before, isBlank character = true)
    (blankAfter : ∀ character ∈ after, isBlank character = true)
    (visibleFirst : ∀ first, middle.head? = some first → isBlank first = false)
    (visibleLast : ∀ last, middle.getLast? = some last → isBlank last = false) :
    trimBlanks (before ++ middle ++ after) = middle := by
  unfold trimBlanks
  by_cases empty : middle = []
  · have allBlank : ∀ character ∈ before ++ middle ++ after, isBlank character = true := by
      intro character member
      rw [empty, List.append_nil] at member
      rcases List.mem_append.mp member with isBefore | isAfter
      · exact blankBefore character isBefore
      · exact blankAfter character isAfter
    rw [List.dropWhile_eq_nil_iff.mpr allBlank, empty]
    rfl
  · have begins : ∀ first, (middle ++ after).head? = some first → isBlank first = false := by
      intro first isFirst
      cases middle with
      | nil => exact absurd rfl empty
      | cons character more => exact visibleFirst first isFirst
    have ends : ∀ first, middle.reverse.head? = some first → isBlank first = false := by
      intro first isFirst
      rw [List.head?_reverse] at isFirst
      exact visibleLast first isFirst
    have blankReversed : ∀ character ∈ after.reverse, isBlank character = true := by
      intro character member
      exact blankAfter character (List.mem_reverse.mp member)
    rw [List.append_assoc, List.dropWhile_append_of_pos blankBefore,
      dropWhile_isBlank_eq_self begins, List.reverse_append,
      List.dropWhile_append_of_pos blankReversed, dropWhile_isBlank_eq_self ends,
      List.reverse_reverse]

/-- Collapsing and trimming leaves the runs, joined by spaces. -/
theorem trimBlanks_collapseBlanks (characters : List Char) :
    trimBlanks (collapseBlanks false characters) = joinRuns (runsFrom [] characters) := by
  have areRuns := isRun_of_mem_runsFrom characters [] (by simp)
  have onlySpace {last : List Char} (isLast : last = [] ∨ last = [' ']) :
      ∀ character ∈ last, isBlank character = true := by
    intro character member
    rcases isLast with rfl | rfl
    · cases member
    · rw [List.mem_singleton.mp member]
      decide
  have trimmed {before last : List Char} (isBefore : before = [] ∨ before = [' '])
      (isLast : last = [] ∨ last = [' ']) :
      trimBlanks (before ++ joinRuns (runsFrom [] characters) ++ last) =
        joinRuns (runsFrom [] characters) :=
    trimBlanks_append (onlySpace isBefore) (onlySpace isLast) (ends_joinRuns areRuns).1
      (ends_joinRuns areRuns).2
  cases characters with
  | nil => rfl
  | cons character rest =>
      cases blank : isBlank character with
      | true =>
          rcases (collapseBlanks_eq rest).2 with ⟨last, isLast, _, collapsed⟩
          have begun : runsFrom [] (character :: rest) = runsFrom [] rest := by
            simp only [runsFrom, blank, if_true, endWord]
          have whole : collapseBlanks false (character :: rest) =
              [' '] ++ joinRuns (runsFrom [] (character :: rest)) ++ last := by
            simp only [collapseBlanks, blank, if_true, Bool.false_eq_true, if_false, collapsed,
              begun]
            rfl
          rw [whole, trimmed (.inr rfl) isLast]
      | false =>
          rcases (collapseBlanks_eq rest).1 [character] (by simp) with ⟨last, isLast, collapsed⟩
          have begun : runsFrom [] (character :: rest) = runsFrom [character] rest := by
            simp only [runsFrom, blank, Bool.false_eq_true, if_false, List.nil_append]
          have whole : collapseBlanks false (character :: rest) =
              [] ++ joinRuns (runsFrom [] (character :: rest)) ++ last := by
            rw [begun, List.nil_append, ← collapsed]
            simp only [collapseBlanks, blank, Bool.false_eq_true, if_false]
            rfl
          rw [whole, trimmed (.inl rfl) isLast]

/-! ### The words of a text -/

theorem normalizeChars_eq (characters : List Char) :
    normalizeChars characters = joinRuns (scan characters) := by
  rw [normalizeChars, trimBlanks_collapseBlanks, runsFrom_padParentheses, scan]

private theorem isRun_of_mem_scan {characters word : List Char} (member : word ∈ scan characters) :
    IsRun word := by
  rw [scan, ← runsFrom_padParentheses] at member
  exact isRun_of_mem_runsFrom _ [] (by simp) word member

private theorem splitSpaces_eq_splitOn (characters : List Char) :
    splitSpaces characters = characters.splitOn ' ' := by
  induction characters with
  | nil => rfl
  | cons character rest inductionHypothesis =>
      rw [splitSpaces, List.splitOn_cons_eq_if_modifyHead, inductionHypothesis]
      by_cases space : character = ' '
      · simp [space]
      · simp only [if_neg space, beq_iff_eq]
        cases pieces : rest.splitOn ' ' with
        | nil => exact absurd pieces (List.splitOn_ne_nil ' ' rest)
        | cons piece more => rfl

private theorem splitSpaces_joinRuns {runs : List (List Char)} (areRuns : ∀ run ∈ runs, IsRun run)
    (nonempty : runs ≠ []) : splitSpaces (joinRuns runs) = runs := by
  rw [splitSpaces_eq_splitOn, joinRuns]
  refine List.splitOn_intercalate ' ' ?_ nonempty
  intro run member hasSpace
  have visible := (areRuns run member).2 ' ' hasSpace
  exact absurd visible (by decide)

/-- **The words of a text are those of the scan.** -/
theorem words_eq_scan (text : String) : words text = (scan text.toList).map String.ofList := by
  have areRuns : ∀ run ∈ scan text.toList, IsRun run := fun run member => isRun_of_mem_scan member
  unfold words wordsOfNormal normalize
  rw [normalizeChars_eq]
  by_cases none : scan text.toList = []
  · rw [none]
    rfl
  · have notEmpty : (String.ofList (joinRuns (scan text.toList))).isEmpty = false := by
      simp [joinRuns_ne_nil areRuns none]
    rw [notEmpty, String.toList_ofList, splitSpaces_joinRuns areRuns none]
    rfl

/-! ### Joined words -/

/-- A word is a single parenthesis or a run without parentheses. -/
def IsWord (word : List Char) : Prop :=
  (∃ character, isParenthesis character = true ∧ word = [character]) ∨
    IsRun word ∧ ∀ character ∈ word, isParenthesis character = false

theorem IsWord.of_plain {word : List Char} (started : word ≠ [])
    (plain : ∀ character ∈ word, isBlank character = false ∧ isParenthesis character = false) :
    IsWord word :=
  .inr ⟨⟨started, fun character member => (plain character member).1⟩,
    fun character member => (plain character member).2⟩

private theorem isWord_of_mem_scanFrom (characters : List Char) :
    ∀ word, (∀ character ∈ word, isBlank character = false ∧ isParenthesis character = false) →
      ∀ found ∈ scanFrom word characters, IsWord found := by
  induction characters with
  | nil =>
      intro word plain found member
      rcases mem_endWord member with ⟨rfl, started⟩ | impossible
      · exact .of_plain started plain
      · cases impossible
  | cons character rest inductionHypothesis =>
      intro word plain found member
      have restWords := inductionHypothesis [] (by simp)
      unfold scanFrom at member
      split at member
      · rcases mem_endWord member with ⟨rfl, started⟩ | isLater
        · exact .of_plain started plain
        · exact restWords found isLater
      · rename_i notBlank
        split at member
        · rename_i paren
          rcases mem_endWord member with ⟨rfl, started⟩ | isLater
          · exact .of_plain started plain
          · rcases List.mem_cons.mp isLater with rfl | inRest
            · exact .inl ⟨character, paren, rfl⟩
            · exact restWords found inRest
        · rename_i notParen
          refine inductionHypothesis (word ++ [character]) ?_ found member
          intro other otherMember
          rcases List.mem_append.mp otherMember with before | isLast
          · exact plain other before
          · rw [List.mem_singleton.mp isLast]
            simpa using And.intro notBlank notParen

theorem scanFrom_append {added : List Char}
    (plain : ∀ character ∈ added, isBlank character = false ∧ isParenthesis character = false)
    (rest : List Char) :
    ∀ word, scanFrom word (added ++ rest) = scanFrom (word ++ added) rest := by
  induction added with
  | nil => simp
  | cons character more inductionHypothesis =>
      intro word
      have first := plain character (List.mem_cons_self ..)
      have morePlain := fun other member => plain other (List.mem_cons_of_mem character member)
      rw [List.cons_append, scanFrom, first.1, first.2]
      simp only [Bool.false_eq_true, if_false]
      rw [inductionHypothesis morePlain]
      simp

/-- A word at the end or before a blank is read as it stands. -/
theorem scan_word_append {word rest : List Char} (isWord : IsWord word)
    (separated : rest = [] ∨ ∃ more, rest = ' ' :: more) :
    scan (word ++ rest) = word :: scan rest := by
  have spaceBlank : isBlank ' ' = true := by decide
  rcases isWord with ⟨character, paren, rfl⟩ | ⟨isRun, noParen⟩
  · have visible := isBlank_of_isParenthesis paren
    simp only [scan, List.singleton_append, scanFrom, visible, paren, Bool.false_eq_true, if_false,
      if_true]
    rfl
  · have plain := fun character member =>
      And.intro (isRun.2 character member) (noParen character member)
    rw [scan, scanFrom_append plain, List.nil_append]
    rcases separated with rfl | ⟨more, rfl⟩
    · simp only [scan, scanFrom, endWord_of_ne_nil isRun.1]
      rfl
    · simp only [scan, scanFrom, spaceBlank, if_true, endWord_of_ne_nil isRun.1]
      rfl

private theorem scan_joinRuns {words : List (List Char)} (areWords : ∀ word ∈ words, IsWord word) :
    scan (joinRuns words) = words := by
  induction words with
  | nil => rfl
  | cons word rest inductionHypothesis =>
      have isWord := areWords word (List.mem_cons_self ..)
      have restWords := fun other member => areWords other (List.mem_cons_of_mem word member)
      by_cases single : rest = []
      · have read := scan_word_append isWord (.inl rfl)
        rw [List.append_nil] at read
        rw [single, joinRuns, List.intercalate_singleton, read]
        rfl
      · have space (characters : List Char) : scan (' ' :: characters) = scan characters := rfl
        rw [joinRuns, List.intercalate_cons_of_ne_nil single, List.append_assoc]
        change scan (word ++ ' ' :: joinRuns rest) = _
        rw [scan_word_append isWord (.inr ⟨_, rfl⟩), space, inductionHypothesis restWords]

theorem isWord_of_mem_words {text word : String} (member : word ∈ words text) :
    IsWord word.toList := by
  rw [words_eq_scan] at member
  rcases List.mem_map.mp member with ⟨found, scanned, rfl⟩
  rw [String.toList_ofList]
  exact isWord_of_mem_scanFrom text.toList [] (by simp) found scanned

/-- **Words that are joined by spaces are read back.** -/
theorem words_joinWords {parts : List String} (areWords : ∀ word ∈ parts, IsWord word.toList) :
    words (joinWords parts) = parts := by
  have areChars : ∀ word ∈ parts.map String.toList, IsWord word := by
    intro word member
    rcases List.mem_map.mp member with ⟨part, isPart, rfl⟩
    exact areWords part isPart
  have joined : (joinWords parts).toList = joinRuns (parts.map String.toList) := by
    rw [joinWords, String.toList_intercalate]
    rfl
  rw [words_eq_scan, joined, scan_joinRuns areChars, List.map_map]
  simp

/-! ### Texts side by side -/

theorem words_eq_singleton {text : String} (isWord : IsWord text.toList) : words text = [text] := by
  have read := words_joinWords (List.forall_mem_singleton.mpr isWord)
  rwa [joinWords, String.intercalate_singleton] at read

private theorem endWord_append (word : List Char) (first later : List (List Char)) :
    endWord word (first ++ later) = endWord word first ++ later := by
  unfold endWord
  split
  · rfl
  · rfl

/-- A space ends the words before it. -/
theorem scanFrom_append_space (before after : List Char) :
    ∀ word, scanFrom word (before ++ ' ' :: after) = scanFrom word before ++ scan after := by
  have spaceBlank : isBlank ' ' = true := by decide
  induction before with
  | nil =>
      intro word
      have ended : scanFrom word (' ' :: after) = endWord word (scan after) := if_pos spaceBlank
      rw [List.nil_append, ended, scanFrom, ← endWord_append, List.nil_append]
  | cons character rest inductionHypothesis =>
      intro word
      rw [List.cons_append, scanFrom, scanFrom]
      split
      · rw [inductionHypothesis, endWord_append]
      · split
        · rw [inductionHypothesis, ← List.cons_append, endWord_append]
        · rw [inductionHypothesis]

theorem words_append_space (before after : String) :
    words (before ++ " " ++ after) = words before ++ words after := by
  have split : (before ++ " " ++ after).toList = before.toList ++ ' ' :: after.toList := by
    simp
  rw [words_eq_scan, words_eq_scan, words_eq_scan, split, ← List.map_append]
  exact congrArg _ (scanFrom_append_space _ _ [])

end Reckoner.Text
