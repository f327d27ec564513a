import Reckoner.Proofs.CommandLine.Path

/-!
Contract: where the table of a script is saved.

A path leads through directories to its last part. The script and the saved
table have the same directories on their way, so the second one is found beside
the first: it is a file, a place for one, a directory, or too long a name. Main
statements: in the first two cases saving puts a file there, after which the name
of the table leads to it, and that of the script leads to where it led.

Owns: the directories that a path leads through, what a new file changes for
them, and the place of the saved table.

Does not own: what is saved.
-/

namespace Reckoner

namespace FileTree

/-! ### Ways through directories -/

/-- The parts lead from a directory to another one, through directories only. -/
inductive Leads (tree : FileTree) :
    List (List Char) → List (List Char) → List (List Char) → Prop where
  | nil {directory : List (List Char)} : Leads tree directory [] directory
  | here {directory parts reached : List (List Char)} {part : List Char}
      (stays : isHere part = true) (leads : Leads tree directory parts reached) :
      Leads tree directory (part :: parts) reached
  | above {directory parts reached : List (List Char)} {part : List Char}
      (moves : isHere part = false) (up : isAbove part = true)
      (inside : directory.isEmpty = false) (leads : Leads tree directory.dropLast parts reached) :
      Leads tree directory (part :: parts) reached
  | enter {directory parts reached : List (List Char)} {part : List Char}
      (moves : isHere part = false) (down : isAbove part = false)
      (short : ¬ partLimit < (String.ofList part).utf8ByteSize)
      (isThere : tree.isDirectory (directory ++ [part]) = true)
      (leads : Leads tree (directory ++ [part]) parts reached) :
      Leads tree directory (part :: parts) reached

variable {tree other : FileTree} {directory reached : List (List Char)} {part last : List Char}
  {parts rest : List (List Char)} {path script content : String}

theorem Leads.follow (leads : Leads tree directory parts reached) (rest : List (List Char)) :
    tree.follow directory (parts ++ rest) = tree.follow reached rest := by
  induction leads with
  | nil => rfl
  | here stays _ inductionHypothesis =>
      rw [List.cons_append, FileTree.follow, if_pos stays, inductionHypothesis]
  | above moves up inside _ inductionHypothesis =>
      rw [List.cons_append, FileTree.follow, if_neg (by simp [moves]), if_pos up,
        if_neg (by simp [inside]), inductionHypothesis]
  | enter moves down short isThere _ inductionHypothesis =>
      rw [List.cons_append, FileTree.follow, if_neg (by simp [moves]), if_neg (by simp [down]),
        if_neg short]
      dsimp only
      rw [if_pos isThere, inductionHypothesis]

/-- Directories that are kept lead on as before. -/
theorem Leads.mono (leads : Leads tree directory parts reached)
    (kept : ∀ parts, tree.isDirectory parts = true → other.isDirectory parts = true) :
    Leads other directory parts reached := by
  induction leads with
  | nil => exact .nil
  | here stays _ inductionHypothesis => exact .here stays inductionHypothesis
  | above moves up inside _ inductionHypothesis => exact .above moves up inside inductionHypothesis
  | enter moves down short isThere _ inductionHypothesis =>
      exact .enter moves down short (kept _ isThere) inductionHypothesis

/-- The parts before the last lead to a directory if all of them lead to a file. -/
theorem exists_leads :
    ∀ {directory : List (List Char)}, tree.follow directory (parts ++ [last]) = .file path →
      ∃ reached, Leads tree directory parts reached := by
  induction parts with
  | nil => exact fun {directory} _ => ⟨directory, .nil⟩
  | cons part rest inductionHypothesis =>
      intro directory found
      rw [List.cons_append, follow] at found
      split at found
      · rename_i stays
        obtain ⟨reached, leads⟩ := inductionHypothesis found
        exact ⟨reached, .here stays leads⟩
      · rename_i moves
        split at found
        · rename_i up
          split at found
          · cases found
          · rename_i inside
            obtain ⟨reached, leads⟩ := inductionHypothesis found
            exact ⟨reached, .above (by simpa using moves) up (by simpa using inside) leads⟩
        · rename_i down
          split at found
          · cases found
          · rename_i short
            dsimp only at found
            split at found
            · rename_i isThere
              obtain ⟨reached, leads⟩ := inductionHypothesis found
              exact ⟨reached,
                .enter (by simpa using moves) (by simpa using down) short isThere leads⟩
            · have more : (rest ++ [last]).isEmpty = false := by simp
              rw [more] at found
              split at found
              · cases found
              · cases found

/-! ### The last part -/

theorem follow_singleton (moves : isHere part = false) (down : isAbove part = false) :
    tree.follow directory [part] =
      if partLimit < (String.ofList part).utf8ByteSize then .tooLong
      else if tree.isDirectory (directory ++ [part]) then .directory
      else if tree.isFile (directory ++ [part]) then .file (pathOf (directory ++ [part]))
      else .vacant (pathOf (directory ++ [part])) := by
  simp [follow, moves, down]

private theorem follow_singleton_eq_file_iff :
    tree.follow directory [part] = .file path ↔
      isHere part = false ∧ isAbove part = false ∧
        ¬ partLimit < (String.ofList part).utf8ByteSize ∧
        tree.isDirectory (directory ++ [part]) = false ∧
        tree.isFile (directory ++ [part]) = true ∧ pathOf (directory ++ [part]) = path := by
  cases stays : isHere part with
  | true => simp [follow, stays]
  | false =>
      cases up : isAbove part with
      | true =>
          rw [follow, if_neg (by simp [stays]), if_pos up]
          split <;> simp [follow]
      | false =>
          rw [follow_singleton stays up]
          by_cases long : partLimit < (String.ofList part).utf8ByteSize
          · simp [long]
          · cases tree.isDirectory (directory ++ [part]) with
            | true => simp [long]
            | false =>
                cases tree.isFile (directory ++ [part]) with
                | true => simp [long]
                | false => simp [long]

private theorem eq_pathOf_of_follow_singleton (found : tree.follow directory [part] = .file path) :
    path = pathOf (directory ++ [part]) :=
  (follow_singleton_eq_file_iff.mp found).2.2.2.2.2.symm

/-! ### Relative paths -/

theorem locate_of_relative (nonempty : path.toList ≠ []) (relative : path.toList.head? ≠ some '/') :
    tree.locate path =
      if pathLimit < path.utf8ByteSize then .tooLong
      else tree.follow [] (Path.parts path.toList) := by
  rw [locate]
  split
  · rfl
  · split
    · rename_i nothing
      exact absurd nothing nonempty
    · rename_i rest rooted
      rw [rooted] at relative
      exact absurd rfl relative
    · rfl

private theorem follow_of_locate (found : tree.locate path = .file script) :
    path.toList.head? ≠ some '/' ∧ tree.follow [] (Path.parts path.toList) = .file script := by
  rw [locate] at found
  split at found
  · cases found
  · split at found
    · cases found
    · cases found
    · rename_i unrooted
      refine ⟨fun rooted => ?_, found⟩
      obtain ⟨rest, spelled⟩ := List.head?_eq_some_iff.mp rooted
      exact unrooted rest spelled

/-- A path that leads to a file in one tree leads to it in another one, as long as its
parts do. -/
theorem locate_of_follow (found : tree.locate path = .file script)
    (followed : other.follow [] (Path.parts path.toList) = .file script) :
    other.locate path = .file script := by
  have relative := (follow_of_locate found).1
  have nonempty : path.toList ≠ [] := by
    intro empty
    rw [empty] at followed
    cases followed
  rw [locate_of_relative nonempty relative] at found ⊢
  split at found
  · cases found
  · rename_i short
    rw [if_neg short, followed]

/-! ### Beside a script -/

/-- The path of a file has a last part, and what stands before it leads to the directory
of the file. -/
theorem exists_leads_of_locate (found : tree.locate path = .file script) :
    ∃ before last leading directory, path.toList = before ++ last ∧ Path.EndsAtPart before ∧
      '/' ∉ last ∧
      (∀ part : List Char, '/' ∉ part → Path.parts (before ++ part) = leading ++ [part]) ∧
      Leads tree [] leading directory ∧ tree.follow directory [last] = .file script := by
  obtain ⟨_, followed⟩ := follow_of_locate found
  obtain ⟨before, last, spelled, ends, single⟩ := Path.exists_last path.toList
  obtain ⟨leading, partsOf⟩ := Path.exists_leading ends
  rw [spelled, partsOf last single] at followed
  obtain ⟨directory, leads⟩ := exists_leads followed
  rw [leads.follow] at followed
  exact ⟨before, last, leading, directory, spelled, ends, single, partsOf, leads, followed⟩

/-- The name of the saved table leads through the directories of its script, as
long as these are there. -/
theorem exists_beside (found : tree.locate path = .file script) :
    ∃ directory last, '/' ∉ last ∧ script = pathOf (directory ++ [last]) ∧
      ∀ other : FileTree,
        (∀ parts, tree.isDirectory parts = true → other.isDirectory parts = true) →
          other.locate (Run.csvName path) =
            if pathLimit < (Run.csvName path).utf8ByteSize then .tooLong
            else other.follow directory [csvPart last] := by
  have relative := (follow_of_locate found).1
  obtain ⟨before, last, leading, directory, spelled, ends, single, partsOf, leads, followed⟩ :=
    exists_leads_of_locate found
  refine ⟨directory, last, single, eq_pathOf_of_follow_singleton followed, ?_⟩
  intro other kept
  -- The name of the table has the same parts before its last one, and so it leads
  -- through the same directories, also in a tree where more files stand.
  have csvSpelled := toList_csvName ends single spelled
  have csvSingle := slash_not_mem_csvPart single
  have nonempty : (Run.csvName path).toList ≠ [] := by
    rw [csvSpelled, ← List.length_pos_iff, List.length_append]
    have long := four_le_length_csvPart last
    omega
  have csvRelative : (Run.csvName path).toList.head? ≠ some '/' := by
    rw [csvSpelled, List.head?_append]
    rw [spelled, List.head?_append] at relative
    intro rooted
    cases first : before.head? with
    | some character =>
        rw [first] at relative rooted
        exact relative rooted
    | none =>
        rw [first, Option.none_or] at rooted
        exact csvSingle (List.mem_of_head? rooted)
  rw [locate_of_relative nonempty csvRelative, csvSpelled, partsOf _ csvSingle,
    (leads.mono kept).follow]

/-- The table takes the place of its script exactly if it takes its name. -/
theorem csvName_script_eq_self_iff (found : tree.locate path = .file script) :
    Run.csvName script = script ↔ Run.csvName path = path := by
  obtain ⟨before, last, _, directory, spelled, ends, single, _, _, followed⟩ :=
    exists_leads_of_locate found
  obtain ⟨placeBefore, placeEnds, joined⟩ := exists_before directory
  have placeSpelled : script.toList = placeBefore ++ last := by
    rw [eq_pathOf_of_follow_singleton followed, pathOf, String.toList_ofList, joined]
  rw [csvName_eq_self_iff_of_append ends single spelled,
    csvName_eq_self_iff_of_append placeEnds single placeSpelled]

private theorem csvPart_moves (last : List Char) :
    isHere (csvPart last) = false ∧ isAbove (csvPart last) = false := by
  have long := four_le_length_csvPart last
  have differs (part : List Char) (short : part.length < 4) : csvPart last ≠ part := by
    rintro rfl
    omega
  constructor
  · simp [isHere, differs [] (by decide), differs ['.'] (by decide)]
  · simp [isAbove, differs ['.', '.'] (by decide)]

/-- No directory stands where the path leads, and it is short enough. -/
structure HasRoom (tree : FileTree) (path : String) : Prop where
  noDirectory : tree.locate path ≠ .directory
  short : tree.locate path ≠ .tooLong

theorem not_hasRoom_iff :
    ¬ tree.HasRoom path ↔ tree.locate path = .directory ∨ tree.locate path = .tooLong := by
  constructor
  · intro full
    by_contra neither
    rw [not_or] at neither
    exact full ⟨neither.1, neither.2⟩
  · rintro (isDirectory | tooLong) room
    · exact room.noDirectory isDirectory
    · exact room.short tooLong

/-- The table of a script is saved beside it, if there is room. -/
theorem exists_place (found : tree.locate path = .file script)
    (room : tree.HasRoom (Run.csvName path)) :
    ∃ place, Run.csvName script = pathOf place ∧ tree.isDirectory place = false ∧
      ∀ other : FileTree,
        (∀ parts, tree.isDirectory parts = true → other.isDirectory parts = true) →
          other.isDirectory place = false →
            other.locate (Run.csvName path) =
              if other.isFile place then .file (pathOf place) else .vacant (pathOf place) := by
  obtain ⟨directory, last, single, rfl, beside⟩ := exists_beside found
  obtain ⟨moves, down⟩ := csvPart_moves last
  have here := beside tree fun _ isThere => isThere
  rw [follow_singleton moves down] at here
  have shortPath : ¬ pathLimit < (Run.csvName path).utf8ByteSize :=
    fun long => room.short (here.trans (if_pos long))
  rw [if_neg shortPath] at here
  have shortPart : ¬ partLimit < (String.ofList (csvPart last)).utf8ByteSize :=
    fun long => room.short (here.trans (if_pos long))
  rw [if_neg shortPart] at here
  have free : ¬ tree.isDirectory (directory ++ [csvPart last]) = true :=
    fun isThere => room.noDirectory (here.trans (if_pos isThere))
  refine ⟨directory ++ [csvPart last], csvName_pathOf directory single,
    Bool.eq_false_iff.mpr free, ?_⟩
  intro other kept freeToo
  rw [beside other kept, if_neg shortPath, follow_singleton moves down, if_neg shortPart,
    if_neg (Bool.eq_false_iff.mp freeToo)]

/-! ### Saving -/

/-- The paths of the files. -/
def paths (tree : FileTree) : List String :=
  tree.files.map Prod.fst

theorem mem_paths_put {name : String} :
    name ∈ (tree.put path content).paths ↔ name ∈ tree.paths ∨ name = path := by
  rw [paths, put, Pairs.map_fst_put]
  split
  · rename_i present
    exact ⟨.inl, fun either => either.elim id fun same => same ▸ present⟩
  · simp [paths]

theorem isFile_iff : tree.isFile parts = true ↔ pathOf parts ∈ tree.paths := by
  simp [isFile, paths]

theorem isDirectory_iff :
    tree.isDirectory parts = true ↔
      (parts = [] ∨ parts ∈ tree.directories) ∨
        ∃ name ∈ tree.paths, (pathOf parts ++ "/").toList <+: name.toList := by
  simp [isDirectory, paths]

/-- A new file takes no directory away. -/
theorem isDirectory_put_of_isDirectory (isThere : tree.isDirectory parts = true) :
    (tree.put path content).isDirectory parts = true := by
  rw [isDirectory_iff] at isThere ⊢
  apply isThere.imp_right
  rintro ⟨name, isPath, behind⟩
  exact ⟨name, mem_paths_put.mpr (.inl isPath), behind⟩

/-- A new file is no directory itself, because no path goes on behind it. -/
theorem isDirectory_put_self {place : List (List Char)} (free : tree.isDirectory place = false) :
    (tree.put (pathOf place) content).isDirectory place = false := by
  rw [Bool.eq_false_iff, ne_eq, isDirectory_iff] at free ⊢
  rintro (already | ⟨name, isPath, behind⟩)
  · exact free (.inl already)
  · rcases mem_paths_put.mp isPath with isPath | rfl
    · exact free (.inr ⟨name, isPath, behind⟩)
    · have within := behind.length_le
      have longer : (pathOf place ++ "/").toList.length = (pathOf place).toList.length + 1 := by
        simp
      omega

theorem content?_put (tree : FileTree) (path content other : String) :
    (tree.put path content).content? other =
      if other = path then some content else tree.content? other :=
  Pairs.lookup_put path other content tree.files

/-- Once the table of a script is saved, its name leads to it. -/
theorem locate_put_csvName (found : tree.locate path = .file script)
    (room : tree.HasRoom (Run.csvName path)) (content : String) :
    (tree.put (Run.csvName script) content).locate (Run.csvName path) =
      .file (Run.csvName script) := by
  obtain ⟨place, named, free, located⟩ := exists_place found room
  have isThere : (tree.put (pathOf place) content).isFile place = true :=
    isFile_iff.mpr (mem_paths_put.mpr (.inr rfl))
  rw [named, located _ (fun _ => isDirectory_put_of_isDirectory) (isDirectory_put_self free),
    if_pos isThere]

/-- What is saved for a script is read back under the name of its table. -/
theorem readScript_put_csvName (found : tree.locate path = .file script)
    (room : tree.HasRoom (Run.csvName path)) (content : String) :
    (tree.put (Run.csvName script) content).readScript (Run.csvName path) = .ok content := by
  rw [readScript, locate_put_csvName found room content]
  dsimp only
  rw [content?_put, if_pos rfl]

/-- Saving the table of a script puts a file beside it. -/
theorem write_csvName (found : tree.locate path = .file script)
    (room : tree.HasRoom (Run.csvName path)) (content : String) :
    tree.write (Run.csvName path) content = .ok (tree.put (Run.csvName script) content) := by
  obtain ⟨place, named, free, located⟩ := exists_place found room
  rw [named, write, located tree (fun _ isThere => isThere) free]
  cases tree.isFile place with
  | true => rfl
  | false => rfl

/-- Where there is no room, nothing is written. -/
theorem write_of_not_hasRoom (full : ¬ tree.HasRoom path) (content : String) :
    tree.write path content = .error ⟨(tree.locate path).cause, path⟩ := by
  rcases not_hasRoom_iff.mp full with isDirectory | tooLong
  · rw [write, isDirectory]
  · rw [write, tooLong]

theorem hasRoom_of_write {saved : FileTree} (written : tree.write path content = .ok saved) :
    tree.HasRoom path := by
  by_contra full
  rw [write_of_not_hasRoom full] at written
  cases written

/-- A file takes no place in the directory of its own from another one. -/
theorem isDirectory_put_beside (single : '/' ∉ part) :
    (tree.put (pathOf (directory ++ [part])) content).isDirectory (directory ++ [last]) =
      tree.isDirectory (directory ++ [last]) := by
  obtain ⟨before, _, joined⟩ := exists_before directory
  have apart : ¬ (pathOf (directory ++ [last]) ++ "/").toList <+:
      (pathOf (directory ++ [part])).toList := by
    simp only [pathOf, joined, String.toList_append, String.toList_ofList, List.append_assoc,
      List.prefix_append_right_inj]
    intro behind
    exact single (behind.subset (by simp))
  rw [Bool.eq_iff_iff, isDirectory_iff, isDirectory_iff]
  apply or_congr_right
  constructor
  · rintro ⟨name, isPath, behind⟩
    rcases mem_paths_put.mp isPath with isPath | rfl
    · exact ⟨name, isPath, behind⟩
    · exact absurd behind apart
  · rintro ⟨name, isPath, behind⟩
    exact ⟨name, mem_paths_put.mpr (.inl isPath), behind⟩

/-- A script stands where it stood when its table is saved. -/
theorem locate_put_beside (found : tree.locate path = .file script) (content : String) :
    (tree.put (Run.csvName script) content).locate path = .file script := by
  obtain ⟨before, last, leading, directory, spelled, ends, single, partsOf, leads, followed⟩ :=
    exists_leads_of_locate found
  have leadsToo : Leads (tree.put (Run.csvName script) content) [] leading directory :=
    leads.mono fun _ => isDirectory_put_of_isDirectory
  apply locate_of_follow found
  rw [spelled, partsOf last single, leadsToo.follow]
  obtain ⟨moves, down, short, noDirectory, isThere, rfl⟩ := follow_singleton_eq_file_iff.mp followed
  rw [follow_singleton_eq_file_iff, csvName_pathOf directory single,
    isDirectory_put_beside (slash_not_mem_csvPart single), isFile_iff, mem_paths_put]
  exact ⟨moves, down, short, noDirectory, .inl (isFile_iff.mp isThere), rfl⟩

/-! ### Paths of one part -/

theorem locate_ofList (single : '/' ∉ part) (moves : isHere part = false) :
    tree.locate (String.ofList part) =
      if pathLimit < (String.ofList part).utf8ByteSize then .tooLong
      else tree.follow [] [part] := by
  have nonempty : part ≠ [] := by
    rintro rfl
    cases moves
  have relative : part.head? ≠ some '/' := fun rooted => single (List.mem_of_head? rooted)
  rw [locate_of_relative (by rwa [String.toList_ofList]) (by rwa [String.toList_ofList]),
    String.toList_ofList, Path.parts_of_no_slash single]

theorem pathOf_singleton (part : List Char) : pathOf [part] = String.ofList part := by
  rw [pathOf, List.intercalate_singleton]

/-- A single file is found under its name. -/
theorem locate_put_ofList (single : '/' ∉ part) (moves : isHere part = false)
    (down : isAbove part = false) (short : (String.ofList part).utf8ByteSize ≤ partLimit)
    (content : String) :
    (put {} (String.ofList part) content).locate (String.ofList part) =
      .file (String.ofList part) := by
  have isThere : (put {} (pathOf [part]) content).isFile [part] = true :=
    isFile_iff.mpr (mem_paths_put.mpr (.inr rfl))
  have free : (put {} (pathOf [part]) content).isDirectory [part] = false :=
    isDirectory_put_self rfl
  have limits : partLimit ≤ pathLimit := by decide
  rw [pathOf_singleton] at isThere free
  rw [locate_ofList single moves, if_neg (by omega), follow_singleton moves down,
    if_neg (by omega), List.nil_append, free, isThere, pathOf_singleton]
  rfl

theorem locate_csvName_ofList_of_long (single : '/' ∉ part)
    (long : partLimit < (String.ofList (csvPart part)).utf8ByteSize) :
    tree.locate (Run.csvName (String.ofList part)) = .tooLong := by
  obtain ⟨moves, down⟩ := csvPart_moves part
  have named : Run.csvName (String.ofList part) = String.ofList (csvPart part) := by
    have spelled := csvName_pathOf [] single
    rwa [List.nil_append, List.nil_append, pathOf_singleton, pathOf_singleton] at spelled
  rw [named, locate_ofList (slash_not_mem_csvPart single) moves, follow_singleton moves down,
    if_pos long, ite_self]

end FileTree

end Reckoner
