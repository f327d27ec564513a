import Reckoner.Proofs.Decimal.ReadBack
import Reckoner.Proofs.Table.Views
import Reckoner.Report.Csv

/-!
Contract: a table is read back from its comma-separated values.

A reader of records goes through the characters once. A field begins with a
double quote or not. In a quoted field only the double quote is special: two of
them stand for one, and one that no other follows ends the quoted part. Outside
of quotes a comma ends the field, and a line feed, also behind a carriage
return, ends the record. Main statement: the records of a table are the header
and then, in ascending order of the names, the name and the value of every
variable, so tables with the same text are the same.

Owns: the reader of records, and what it does with each part of the text.

Does not own: how a number is read.
-/

namespace Reckoner

namespace Csv

/-! ### The reader -/

/-- Where a reader stands in a field. -/
inductive Place
  /-- Nothing of the field was read. -/
  | start
  | bare
  | quoted
  /-- Behind a double quote in a quoted field, which ends it or is the first of two. -/
  | quote
  /-- Behind a carriage return, which only a line feed may follow. -/
  | carriage
deriving DecidableEq

/-- What was read so far: whole records, whole fields of the next record, and
characters of the next field. -/
structure Reader where
  place : Place := .start
  records : List (List String) := []
  fields : List String := []
  field : List Char := []
deriving DecidableEq

namespace Reader

/-- Takes a character into the field. -/
def add (reader : Reader) (place : Place) (character : Char) : Reader :=
  { reader with place, field := reader.field ++ [character] }

def endField (reader : Reader) : Reader :=
  { reader with
    place := .start
    fields := reader.fields ++ [String.ofList reader.field]
    field := [] }

def endRecord (reader : Reader) : Reader :=
  { records := reader.records ++ [reader.fields ++ [String.ofList reader.field]] }

/-- What a character outside of quotes ends, if it ends anything. -/
def separate? (reader : Reader) (character : Char) : Option Reader :=
  if character = ',' then some reader.endField
  else if character = '\n' then some reader.endRecord
  else if character = '\r' then some { reader with place := .carriage }
  else none

/-- Reads one character. A double quote must not stand inside a bare field, and
only a separator may follow the end of a quoted one. -/
def step (reader : Reader) (character : Char) : Option Reader :=
  match reader.place with
  | .start =>
      if character = '\x22' then some { reader with place := .quoted }
      else (reader.separate? character).or (some (reader.add .bare character))
  | .bare =>
      if character = '\x22' then none
      else (reader.separate? character).or (some (reader.add .bare character))
  | .quoted =>
      if character = '\x22' then some { reader with place := .quote }
      else some (reader.add .quoted character)
  | .quote =>
      if character = '\x22' then some (reader.add .quoted character)
      else reader.separate? character
  | .carriage => if character = '\n' then some reader.endRecord else none

/-- The records of a text that ends here. The last one needs no line feed. -/
def finish? (reader : Reader) : Option (List (List String)) :=
  match reader.place with
  | .quoted | .carriage => none
  | .bare | .quote => some reader.endRecord.records
  | .start => some (if reader.fields = [] then reader.records else reader.endRecord.records)

/-- Reads several characters. -/
def run (reader : Reader) (characters : List Char) : Option Reader :=
  characters.foldlM step reader

end Reader

/-- The records of a text, if it is well formed. -/
def records? (text : String) : Option (List (List String)) := do
  (← Reader.run {} text.toList).finish?

/-! ### The parts of the text -/

namespace Reader

variable {reader next : Reader} {records : List (List String)} {fields : List String}
  {field characters : List Char}

private theorem run_append (ran : reader.run characters = some next) (rest : List Char) :
    reader.run (characters ++ rest) = next.run rest := by
  rw [run, List.foldlM_append]
  exact congrArg (· >>= fun reader => run reader rest) ran

private theorem run_cons {character : Char} (stepped : reader.step character = some next)
    (rest : List Char) : reader.run (character :: rest) = next.run rest := by
  have single : reader.run [character] = some next := by
    rw [run, List.foldlM_cons, stepped]
    rfl
  exact run_append single rest

private theorem step_quoted {character : Char} (noQuote : character ≠ '\x22') :
    step ⟨.quoted, records, fields, field⟩ character =
      some ⟨.quoted, records, fields, field ++ [character]⟩ :=
  if_neg noQuote

/-- Doubled quotes give the characters that they stand for. -/
theorem run_doubleQuotes :
    run ⟨.quoted, records, fields, field⟩ (doubleQuotes characters) =
      some ⟨.quoted, records, fields, field ++ characters⟩ := by
  induction characters generalizing field with
  | nil =>
      rw [List.append_nil]
      rfl
  | cons character characters inductionHypothesis =>
      have added : run ⟨.quoted, records, fields, field ++ [character]⟩ (doubleQuotes characters) =
          some ⟨.quoted, records, fields, field ++ character :: characters⟩ := by
        rw [inductionHypothesis, List.append_assoc, List.singleton_append]
      by_cases isQuote : character = '\x22'
      · rw [isQuote] at added ⊢
        exact added
      · have single : doubleQuotes (character :: characters) =
            character :: doubleQuotes characters := by
          rw [doubleQuotes, List.flatMap_cons, if_neg isQuote]
          rfl
        rw [single, run_cons (step_quoted isQuote), added]

/-- A quoted field is read to its end, whatever characters the text holds. -/
theorem run_quotedField (text : String) :
    run ⟨.start, records, fields, []⟩ (quotedField text) =
      some ⟨.quote, records, fields, text.toList⟩ := by
  have opened : step ⟨.start, records, fields, []⟩ '\x22' = some ⟨.quoted, records, fields, []⟩ :=
    rfl
  have inside : run ⟨.quoted, records, fields, []⟩ (doubleQuotes text.toList) =
      some ⟨.quoted, records, fields, text.toList⟩ :=
    run_doubleQuotes
  rw [quotedField, List.cons_append, run_cons opened, run_append inside]
  rfl

example : records? "a,\x22b,\x22\x22c\nd\x22\r\n" = some [["a", "b,\x22c\nd"]] := by decide

private theorem step_bare {place : Place} {character : Char}
    (outside : place = .start ∨ place = .bare)
    (plain : Layout.isNumberCharacter character = true) :
    step ⟨place, records, fields, field⟩ character =
      some ⟨.bare, records, fields, field ++ [character]⟩ := by
  have differs {special : Char} (noPlain : ¬ Layout.isNumberCharacter special = true) :
      character ≠ special := by
    rintro rfl
    exact noPlain plain
  have noQuote : character ≠ '\x22' := differs (by decide)
  have separated : separate? ⟨place, records, fields, field⟩ character = none := by
    rw [separate?, if_neg (differs (by decide)), if_neg (differs (by decide)),
      if_neg (differs (by decide))]
  rcases outside with rfl | rfl
  · simp only [step, noQuote, if_false, separated, Option.none_or, add]
  · simp only [step, noQuote, if_false, separated, Option.none_or, add]

/-- Characters of numbers stay in a bare field. -/
theorem run_bare {place : Place} (outside : place = .start ∨ place = .bare)
    (nonempty : characters ≠ [])
    (plain : ∀ character ∈ characters, Layout.isNumberCharacter character = true) :
    run ⟨place, records, fields, field⟩ characters =
      some ⟨.bare, records, fields, field ++ characters⟩ := by
  induction characters generalizing place field with
  | nil => exact absurd rfl nonempty
  | cons character characters inductionHypothesis =>
      obtain ⟨isPlain, arePlain⟩ := List.forall_mem_cons.mp plain
      rw [run_cons (step_bare outside isPlain)]
      cases characters with
      | nil => rfl
      | cons following characters =>
          rw [inductionHypothesis (.inr rfl) (List.cons_ne_nil _ _) arePlain,
            List.append_assoc, List.singleton_append]

private theorem run_header :
    run ⟨.start, [], [], []⟩ header = some ⟨.start, [["name", "value"]], [], []⟩ :=
  rfl

/-- The record of a variable is its name and the text of its value. -/
theorem run_record (name : String) (value : Binary64) :
    run ⟨.start, records, [], []⟩ (record name value) =
      some ⟨.start, records ++ [[name, Layout.compact.write value]], [], []⟩ := by
  obtain ⟨nonempty, plain⟩ := Layout.write_compact_characters value
  have separated : step ⟨.quote, records, [], name.toList⟩ ',' =
      some ⟨.start, records, [name], []⟩ := by
    show some (Reader.mk .start records [String.ofList name.toList] []) = _
    rw [String.ofList_toList]
  have valued : run ⟨.start, records, [name], []⟩ (Layout.compact.write value).toList =
      some ⟨.bare, records, [name], (Layout.compact.write value).toList⟩ :=
    run_bare (.inl rfl) nonempty plain
  have ended : step ⟨.bare, records, [name], (Layout.compact.write value).toList⟩ '\n' =
      some ⟨.start, records ++ [[name, Layout.compact.write value]], [], []⟩ := by
    show some (Reader.mk .start (records ++
      [[name, String.ofList (Layout.compact.write value).toList]]) [] []) = _
    rw [String.ofList_toList]
  rw [record, List.append_assoc, run_append (run_quotedField name), List.cons_append,
    run_cons separated, run_append valued, run_cons ended]
  rfl

private theorem run_items (items : List (String × Binary64)) :
    run ⟨.start, records, [], []⟩ (items.flatMap fun (name, value) => record name value) =
      some ⟨.start,
        records ++ items.map fun (name, value) => [name, Layout.compact.write value], [], []⟩ := by
  induction items generalizing records with
  | nil =>
      rw [List.map_nil, List.append_nil]
      rfl
  | cons entry items inductionHypothesis =>
      rw [List.flatMap_cons, run_append (run_record entry.1 entry.2), inductionHypothesis,
        List.append_assoc]
      rfl

end Reader

/-- The text of bindings has one record for each of them behind the header. -/
theorem records?_ofItems (items : List (String × Binary64)) :
    records? (ofItems items) =
      some (["name", "value"] ::
        items.map fun (name, value) => [name, Layout.compact.write value]) := by
  rw [records?, ofItems, String.toList_ofList, Reader.run_append Reader.run_header,
    Reader.run_items]
  rfl

/-- A record of two fields, the name as it stands and a text that is read as the
value. -/
def Holds (record : List String) (entry : String × Binary64) : Prop :=
  ∃ text, record = [entry.1, text] ∧ Binary64.ofText? text = some entry.2

/-- A record holds one binding at most. -/
theorem rightUnique_holds : Relator.RightUnique Holds := by
  rintro record left right ⟨leftText, isLeft, readLeft⟩ ⟨rightText, isRight, readRight⟩
  rw [isLeft, List.cons.injEq, List.cons.injEq] at isRight
  obtain ⟨sameName, sameText, _⟩ := isRight
  rw [sameText, readRight] at readLeft
  exact Prod.ext sameName (Option.some.inj readLeft.symm)

theorem holds_records (items : List (String × Binary64)) :
    List.Forall₂ Holds (items.map fun (name, value) => [name, Layout.compact.write value])
      items := by
  rw [List.forall₂_map_left_iff, List.forall₂_same]
  rintro ⟨name, value⟩ _
  exact ⟨Layout.compact.write value, rfl, Layout.ofText?_write_compact value⟩

end Csv

/-! ### Tables -/

namespace Table

/-- **The text of a table is read back.** Its records are the header and one for
each variable, in ascending order of the names: the name as it stands, and a
text that is read as the value. So two tables have the same text exactly if they
bind the same names to the same values. -/
theorem csv_records (table : Table) :
    ∃ records,
      Csv.records? table.csv = some (["name", "value"] :: records) ∧
        List.Forall₂ Csv.Holds records table.items ∧
        (∀ name value, (name, value) ∈ table.items ↔ table.get? name = some value) ∧
        (table.items.map Prod.fst).Pairwise (· < ·) ∧
        ∀ other : Table, other.csv = table.csv ↔ ∀ name, other.get? name = table.get? name := by
  refine ⟨_, Csv.records?_ofItems table.items, Csv.holds_records table.items,
    fun _ _ => mem_items_iff, table.names_ascending, ?_⟩
  intro other
  constructor
  · intro sameText
    have sameRecords := congrArg Csv.records? sameText
    rw [csv, csv, Csv.records?_ofItems, Csv.records?_ofItems, Option.some.injEq,
      List.cons.injEq] at sameRecords
    have sameItems : other.items = table.items :=
      Csv.rightUnique_holds.forall₂ (Csv.holds_records other.items)
        (sameRecords.2 ▸ Csv.holds_records table.items)
    intro name
    apply Option.ext
    intro value
    show other.get? name = some value ↔ table.get? name = some value
    rw [← mem_items_iff, sameItems, mem_items_iff]
  · intro sameValues
    rw [csv, csv, items_eq_of_get? sameValues]

end Table

end Reckoner
