import Mathlib.Data.List.Sort
import Reckoner.Proofs.Text.Words
import Reckoner.Statement

/-!
Contract: the words of a text, found by where they stand.

A parenthesis is a word wherever it stands, and so is every longest run of
characters that are neither blanks nor parentheses. This says which words occur
at which place, without a scan. Main statement: a normalized text is its words
in the order in which they occur, joined by single spaces, and each part of a
normalized text between spaces is normalized as well.

Owns: occurrences of words, the list of all of them, and what normalization
does in terms of it.

Does not own: the passes of normalization.
-/

namespace Reckoner.Text

/-- The characters of which words with several characters are made. -/
def IsPlain (character : Char) : Prop :=
  isBlank character = false ∧ isParenthesis character = false

/-- A word stands in the characters from a place on. A run is bounded on either
side by the end of the characters or by one that is not plain. -/
inductive OccursAt (characters : List Char) (start : Nat) : List Char → Prop where
  | parenthesis {character : Char} (found : characters[start]? = some character)
      (isParen : isParenthesis character = true) : OccursAt characters start [character]
  | run {before word after : List Char} (split : characters = before ++ (word ++ after))
      (starts : before.length = start) (nonempty : word ≠ [])
      (plain : ∀ character ∈ word, IsPlain character)
      (bounded : ∀ last, before.getLast? = some last → ¬ IsPlain last)
      (complete : ∀ next, after.head? = some next → ¬ IsPlain next) :
      OccursAt characters start word

/-- All occurrences of words, in order, each with its place. -/
structure IsListing (characters : List Char) (occurrences : List (Nat × List Char)) : Prop where
  ascending : occurrences.Pairwise fun earlier later => earlier.1 < later.1
  mem_iff : ∀ start word, (start, word) ∈ occurrences ↔ OccursAt characters start word

/-- The words that occur in a text, in order. -/
def HasWords (text : String) (found : List String) : Prop :=
  ∃ occurrences, IsListing text.toList occurrences ∧
    found = occurrences.map fun occurrence => String.ofList occurrence.2

/-! ### Occurrences in joined characters -/

section Occurrences

variable {characters left word rest found : List Char} {start later : Nat}

private theorem not_isPlain_of_isParenthesis {character : Char}
    (isParen : isParenthesis character = true) :
    ¬ IsPlain character := by
  rintro ⟨_, notParen⟩
  rw [isParen] at notParen
  cases notParen

private theorem not_occursAt_nil : ¬ OccursAt [] start found := by
  intro occurs
  cases occurs with
  | parenthesis found _ => cases found
  | run split _ nonempty _ _ _ =>
      have parts := List.append_eq_nil_iff.mp split.symm
      exact nonempty (List.append_eq_nil_iff.mp parts.2).1

/-- Characters in front move an occurrence on, unless a run crosses the border. -/
theorem occursAt_add (border : ∀ last next, left.getLast? = some last → rest.head? = some next →
      IsPlain next → ¬ IsPlain last) :
    OccursAt (left ++ rest) (left.length + later) found ↔ OccursAt rest later found := by
  constructor
  · intro occurs
    cases occurs with
    | parenthesis isFound isParen =>
        rw [List.getElem?_append_right (Nat.le_add_right _ _), Nat.add_sub_cancel_left] at isFound
        exact .parenthesis isFound isParen
    | @run before _ after split starts nonempty plain bounded complete =>
        obtain ⟨more, rfl⟩ : left <+: before :=
          List.prefix_of_prefix_length_le (List.prefix_append left rest) ⟨_, split.symm⟩ (by omega)
        rw [List.append_assoc] at split
        have isRest := List.append_cancel_left split
        refine .run isRest (by simpa using starts) nonempty plain (fun last isLast => ?_) complete
        refine bounded last ?_
        rw [List.getLast?_append, isLast]
        rfl
  · intro occurs
    cases occurs with
    | parenthesis isFound isParen =>
        refine .parenthesis ?_ isParen
        rw [List.getElem?_append_right (Nat.le_add_right _ _), Nat.add_sub_cancel_left]
        exact isFound
    | @run before _ after split starts nonempty plain bounded complete =>
        have moved : left ++ rest = (left ++ before) ++ (found ++ after) := by
          rw [split, List.append_assoc]
        refine .run moved (by rw [List.length_append, starts]) nonempty plain ?_ complete
        intro last isLast
        cases before with
        | nil =>
            obtain ⟨next, more, rfl⟩ := List.exists_cons_of_ne_nil nonempty
            rw [List.append_nil] at isLast
            exact border last next isLast (by rw [split]; rfl) (plain next List.mem_cons_self)
        | cons first more =>
            rw [List.getLast?_append_of_ne_nil _ (List.cons_ne_nil first more)] at isLast
            exact bounded last isLast

/-- Two runs that begin together, up to characters that are not plain, are the same. -/
theorem run_unique {run after : List Char} (plain : ∀ character ∈ run, IsPlain character)
    (complete : ∀ next, after.head? = some next → ¬ IsPlain next)
    (wordPlain : ∀ character ∈ word, IsPlain character)
    (wordComplete : ∀ next, rest.head? = some next → ¬ IsPlain next)
    (same : word ++ rest = run ++ after) : run = word := by
  rcases List.append_eq_append_iff.mp same with ⟨more, isRun, isRest⟩ | ⟨more, isWord, isAfter⟩
  · cases more with
    | nil => rw [isRun, List.append_nil]
    | cons next others =>
        have inRun : next ∈ run := by simp [isRun]
        exact absurd (plain next inRun) (wordComplete next (by simp [isRest]))
  · cases more with
    | nil => rw [isWord, List.append_nil]
    | cons next others =>
        have inWord : next ∈ word := by simp [isWord]
        exact absurd (wordPlain next inWord) (complete next (by simp [isAfter]))

/-- Inside of plain characters at the beginning only all of them are a word. -/
theorem occursAt_of_lt (plain : ∀ character ∈ word, IsPlain character)
    (complete : ∀ next, rest.head? = some next → ¬ IsPlain next) (below : start < word.length) :
    OccursAt (word ++ rest) start found ↔ start = 0 ∧ found = word := by
  constructor
  · intro occurs
    cases occurs with
    | parenthesis isFound isParen =>
        rw [List.getElem?_append_left below] at isFound
        have isPlain := plain _ (List.mem_of_getElem? isFound)
        exact absurd isPlain (not_isPlain_of_isParenthesis isParen)
    | @run before _ after split starts nonempty runPlain bounded runComplete =>
        obtain ⟨more, rfl⟩ : before <+: word :=
          List.prefix_of_prefix_length_le ⟨_, split.symm⟩ (List.prefix_append word rest) (by omega)
        have beginsHere : before = [] := by
          cases isLast : before.getLast? with
          | none => exact List.getLast?_eq_none_iff.mp isLast
          | some last =>
              have inWord := List.mem_append_left more (List.mem_of_getLast? isLast)
              exact absurd (plain last inWord) (bounded last isLast)
        subst beginsHere
        exact ⟨starts.symm, run_unique runPlain runComplete plain complete split⟩
  · rintro ⟨rfl, rfl⟩
    have nonempty : found ≠ [] := List.length_pos_iff.mp below
    have split : found ++ rest = [] ++ (found ++ rest) := rfl
    exact .run split rfl nonempty plain (fun _ isLast => nomatch isLast) complete

/-- Plain characters at the beginning are a word, and the others stand behind it. -/
theorem occursAt_append (plain : ∀ character ∈ word, IsPlain character)
    (complete : ∀ next, rest.head? = some next → ¬ IsPlain next) :
    OccursAt (word ++ rest) start found ↔
      (start = 0 ∧ word ≠ [] ∧ found = word) ∨
        ∃ later, start = word.length + later ∧ OccursAt rest later found := by
  by_cases below : start < word.length
  · have noLater : ¬ ∃ later, start = word.length + later ∧ OccursAt rest later found := by
      rintro ⟨later, isLater, _⟩
      omega
    have nonempty : word ≠ [] := List.length_pos_iff.mp (Nat.zero_lt_of_lt below)
    rw [occursAt_of_lt plain complete below, or_iff_left noLater, and_iff_right nonempty]
  · obtain ⟨later, rfl⟩ := Nat.exists_eq_add_of_le (Nat.le_of_not_lt below)
    have noWord : ¬ (word.length + later = 0 ∧ word ≠ [] ∧ found = word) := by
      rintro ⟨isZero, nonempty, _⟩
      have positive := List.length_pos_iff.mpr nonempty
      omega
    rw [occursAt_add fun last next _ isNext isPlain => absurd isPlain (complete next isNext),
      or_iff_right noWord]
    constructor
    · exact fun occurs => ⟨later, rfl, occurs⟩
    · rintro ⟨other, same, occurs⟩
      rwa [Nat.add_left_cancel same]

/-- Behind a character that is not plain all words stand as without it. -/
theorem occursAt_cons {separator : Char} (separates : ¬ IsPlain separator) :
    OccursAt (separator :: rest) start found ↔
      (start = 0 ∧ isParenthesis separator = true ∧ found = [separator]) ∨
        ∃ later, start = 1 + later ∧ OccursAt rest later found := by
  have border (last next : Char) (isLast : [separator].getLast? = some last)
      (_ : rest.head? = some next) (_ : IsPlain next) : ¬ IsPlain last := by
    cases isLast
    exact separates
  have moved (later : Nat) :
      OccursAt (separator :: rest) (1 + later) found ↔ OccursAt rest later found :=
    occursAt_add border
  cases start with
  | zero =>
      have noLater : ¬ ∃ later, 0 = 1 + later ∧ OccursAt rest later found := by
        rintro ⟨later, impossible, _⟩
        omega
      rw [or_iff_left noLater]
      constructor
      · intro occurs
        cases occurs with
        | parenthesis isFound isParen =>
            cases isFound
            exact ⟨rfl, isParen, rfl⟩
        | @run before _ after split starts nonempty plain _ _ =>
            obtain ⟨next, more, rfl⟩ := List.exists_cons_of_ne_nil nonempty
            rw [List.length_eq_zero_iff.mp starts] at split
            have isNext : separator = next := (List.cons.inj split).1
            exact absurd (plain next List.mem_cons_self) (isNext ▸ separates)
      · rintro ⟨_, isParen, rfl⟩
        exact .parenthesis rfl isParen
  | succ before =>
      have noWord : ¬ (before + 1 = 0 ∧ isParenthesis separator = true ∧ found = [separator]) :=
        fun isWord => Nat.succ_ne_zero before isWord.1
      rw [or_iff_right noWord, Nat.add_comm, moved]
      constructor
      · exact fun occurs => ⟨before, rfl, occurs⟩
      · rintro ⟨other, same, occurs⟩
        rwa [Nat.add_left_cancel same]

end Occurrences

/-! ### The list of all occurrences -/

namespace IsListing

variable {characters rest : List Char} {occurrences : List (Nat × List Char)}

theorem nil : IsListing [] [] where
  ascending := .nil
  mem_iff := fun _ _ => iff_of_false List.not_mem_nil not_occursAt_nil

/-- A word at the beginning, if there is one, and the occurrences behind it. -/
theorem extend (listing : IsListing rest occurrences) (first : Option (List Char)) (length : Nat)
    (positive : first.isSome = true → 0 < length)
    (occurs_iff : ∀ start word, OccursAt characters start word ↔
      (start = 0 ∧ first = some word) ∨
        ∃ later, start = length + later ∧ OccursAt rest later word) :
    IsListing characters
      (first.toList.map (Prod.mk 0) ++ occurrences.map (Prod.map (length + ·) id)) where
  ascending := by
    refine List.pairwise_append.mpr ⟨?_, ?_, ?_⟩
    · cases first with
      | none => exact .nil
      | some word => exact List.pairwise_singleton _ _
    · exact listing.ascending.map _ fun _ _ below => Nat.add_lt_add_left below length
    · intro earlier isFirst later isLater
      obtain ⟨word, present, rfl⟩ := List.mem_map.mp isFirst
      obtain ⟨occurrence, _, rfl⟩ := List.mem_map.mp isLater
      have started := positive (Option.isSome_of_mem (Option.mem_toList.mp present))
      exact Nat.lt_of_lt_of_le started (Nat.le_add_right _ _)
  mem_iff := by
    intro start word
    rw [occurs_iff, List.mem_append, List.mem_map, List.mem_map]
    refine or_congr ?_ ?_
    · constructor
      · rintro ⟨other, present, same⟩
        cases same
        exact ⟨rfl, Option.mem_toList.mp present⟩
      · rintro ⟨rfl, isFirst⟩
        exact ⟨word, Option.mem_toList.mpr isFirst, rfl⟩
    · constructor
      · rintro ⟨⟨later, other⟩, present, same⟩
        cases same
        exact ⟨later, rfl, (listing.mem_iff later other).mp present⟩
      · rintro ⟨later, rfl, occurs⟩
        exact ⟨(later, word), (listing.mem_iff later word).mpr occurs, rfl⟩

theorem unique {other : List (Nat × List Char)} (listing : IsListing characters occurrences)
    (otherListing : IsListing characters other) : occurrences = other := by
  have irreflexive : Std.Irrefl fun earlier later : Nat × List Char => earlier.1 < later.1 :=
    ⟨fun occurrence => Nat.lt_irrefl occurrence.1⟩
  have antisymmetric : Std.Antisymm fun earlier later : Nat × List Char => earlier.1 < later.1 :=
    ⟨fun _ _ below above => absurd below (Nat.lt_asymm above)⟩
  refine listing.ascending.eq_of_mem_iff otherListing.ascending ?_
  rintro ⟨start, word⟩
  rw [listing.mem_iff, otherListing.mem_iff]

/-- Plain characters are put in front of the others. -/
theorem append {word : List Char} (listing : IsListing rest occurrences)
    (plain : ∀ character ∈ word, IsPlain character)
    (complete : ∀ next, rest.head? = some next → ¬ IsPlain next) :
    ∃ extended, IsListing (word ++ rest) extended ∧
      extended.map Prod.snd = endWord word (occurrences.map Prod.snd) := by
  by_cases empty : word = []
  · subst empty
    exact ⟨occurrences, listing, rfl⟩
  · refine ⟨_, listing.extend (some word) word.length (fun _ => List.length_pos_iff.mpr empty)
      fun start found => ?_, ?_⟩
    · rw [occursAt_append plain complete, Option.some.injEq, and_iff_right empty,
        eq_comm (a := found)]
    · rw [endWord_of_ne_nil empty]
      simp

/-- A character that is not plain is put in front of the others. -/
theorem cons {separator : Char} (listing : IsListing rest occurrences)
    (separates : ¬ IsPlain separator) :
    ∃ extended, IsListing (separator :: rest) extended ∧
      extended.map Prod.snd =
        if isParenthesis separator then [separator] :: occurrences.map Prod.snd
        else occurrences.map Prod.snd := by
  refine ⟨_, listing.extend (if isParenthesis separator then some [separator] else none) 1
    (fun _ => Nat.one_pos) fun start found => ?_, ?_⟩
  · rw [occursAt_cons separates]
    cases isParenthesis separator <;> simp [eq_comm]
  · cases isParenthesis separator <;> simp

end IsListing

/-- The scan finds the words that occur, behind plain characters that it has read already. -/
theorem exists_listing_scanFrom (characters : List Char) :
    ∀ word, (∀ character ∈ word, IsPlain character) →
      ∃ occurrences, IsListing (word ++ characters) occurrences ∧
        occurrences.map Prod.snd = scanFrom word characters := by
  induction characters with
  | nil =>
      intro word plain
      exact IsListing.nil.append plain fun _ isNext => nomatch isNext
  | cons character rest inductionHypothesis =>
      intro word plain
      by_cases isPlain : IsPlain character
      · have longer : ∀ other ∈ word ++ [character], IsPlain other :=
          List.forall_mem_append.mpr ⟨plain, List.forall_mem_singleton.mpr isPlain⟩
        obtain ⟨occurrences, listing, words⟩ := inductionHypothesis _ longer
        refine ⟨occurrences, by simpa using listing, ?_⟩
        rw [words, scanFrom, isPlain.1, isPlain.2]
        rfl
      · -- The word that is begun ends here.
        obtain ⟨later, laterListing, laterWords⟩ := inductionHypothesis [] (by simp)
        obtain ⟨behind, behindListing, behindWords⟩ := laterListing.cons isPlain
        have complete (next : Char) (isNext : (character :: rest).head? = some next) :
            ¬ IsPlain next := by
          cases isNext
          exact isPlain
        obtain ⟨occurrences, listing, words⟩ := behindListing.append plain complete
        refine ⟨occurrences, listing, ?_⟩
        rw [words, behindWords, laterWords, scanFrom]
        cases paren : isParenthesis character with
        | true =>
            rw [isBlank_of_isParenthesis paren]
            rfl
        | false =>
            have blank : isBlank character = true := by
              by_contra visible
              exact isPlain ⟨by simpa using visible, paren⟩
            rw [blank]
            rfl

/-! ### The words of a text -/

theorem hasWords_words (text : String) : HasWords text (words text) := by
  obtain ⟨occurrences, listing, scanned⟩ := exists_listing_scanFrom text.toList [] (by simp)
  refine ⟨occurrences, listing, ?_⟩
  rw [words_eq_scan, scan, ← scanned, List.map_map]
  rfl

theorem HasWords.unique {text : String} {found other : List String} (hasFound : HasWords text found)
    (hasOther : HasWords text other) : found = other := by
  obtain ⟨occurrences, listing, rfl⟩ := hasFound
  obtain ⟨_, otherListing, rfl⟩ := hasOther
  rw [listing.unique otherListing]

theorem HasWords.eq_words {text : String} {found : List String} (hasFound : HasWords text found) :
    found = words text :=
  hasFound.unique (hasWords_words text)

theorem normalize_eq_joinWords (text : String) : normalize text = joinWords (words text) := by
  have joined : (joinWords (words text)).toList = joinRuns (scan text.toList) := by
    rw [joinWords, String.toList_intercalate, words_eq_scan, List.map_map]
    simp [joinRuns, Function.comp_def]
  rw [normalize, normalizeChars_eq, ← joined, String.ofList_toList]

/-- Words that are joined by spaces are a normalized text. -/
theorem normalize_joinWords {parts : List String} (areWords : ∀ word ∈ parts, IsWord word.toList) :
    normalize (joinWords parts) = joinWords parts := by
  rw [normalize_eq_joinWords, words_joinWords areWords]

theorem normalize_eq_normalize_iff {text other : String} :
    normalize text = normalize other ↔ words text = words other := by
  constructor
  · intro same
    rw [words, words, same]
  · intro same
    rw [normalize_eq_joinWords, normalize_eq_joinWords, same]

theorem ne_empty_of_mem_words {text word : String} (member : word ∈ words text) : word ≠ "" := by
  rintro rfl
  rcases isWord_of_mem_words member with ⟨character, _, impossible⟩ | ⟨isRun, _⟩
  · cases impossible
  · exact isRun.1 rfl

/-- **Normalization joins the words of a text.** These are the words that occur
in it, each once, in order. So normalizing again changes nothing, texts are
normalized alike exactly if they have the same words, a normalized text that is
not empty is cut into its words at the spaces, and words in a row, such as those
behind a marker, are joined to a text that has just these words. -/
theorem normalize_joins_words (text : String) :
    ∃ found : List String, HasWords text found ∧ (∀ other, HasWords text other → other = found) ∧
      normalize text = joinWords found ∧
      normalize (normalize text) = normalize text ∧
      (∀ other otherFound, HasWords other otherFound →
        (normalize text = normalize other ↔ found = otherFound)) ∧
      (normalize text ≠ "" →
        (splitSpaces (normalize text).toList).map String.ofList = found) ∧
      (∀ word ∈ found, word ≠ "") ∧
      (∀ part, part <:+: found → normalize (joinWords part) = joinWords part) ∧
      ∀ marker : Marker,
        HasWords (joinWords (Statement.wordsAfter marker.spelling found))
            (Statement.wordsAfter marker.spelling found) ∧
          Statement.ofText (joinWords (Statement.wordsAfter marker.spelling found)) =
            Statement.ofWords (Statement.wordsAfter marker.spelling found) := by
  have partWords {part : List String} (isPart : part <:+: words text) :
      ∀ word ∈ part, IsWord word.toList :=
    fun word member => isWord_of_mem_words (isPart.subset member)
  have readBack (marker : Marker) :
      words (joinWords (Statement.wordsAfter marker.spelling (words text))) =
        Statement.wordsAfter marker.spelling (words text) := by
    have isSuffix : Statement.wordsAfter marker.spelling (words text) <:+ words text :=
      (List.drop_suffix _ _).trans (List.dropWhile_suffix _)
    exact words_joinWords (partWords isSuffix.isInfix)
  refine ⟨words text, hasWords_words text, fun other hasOther => hasOther.eq_words,
    normalize_eq_joinWords text, ?_, ?_, ?_, fun word => ne_empty_of_mem_words,
    fun part isPart => normalize_joinWords (partWords isPart), fun marker => ⟨?_, ?_⟩⟩
  · rw [normalize_eq_joinWords text]
    exact normalize_joinWords (partWords (List.infix_refl _))
  · intro other otherFound hasOther
    rw [hasOther.eq_words, normalize_eq_normalize_iff]
  · intro nonempty
    rw [words, wordsOfNormal, if_neg (by simpa using nonempty)]
  · have hasWords := hasWords_words (joinWords (Statement.wordsAfter marker.spelling (words text)))
    rwa [readBack marker] at hasWords
  · rw [Statement.ofText, readBack marker]

end Reckoner.Text
