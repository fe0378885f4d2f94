import EntityMapper.Proofs.Outcome
import EntityMapper.Proofs.Storage.Path
import EntityMapper.Storage.GeneratedFile

/-!
# Files that were written

The directory that components lead to does not depend on what exists (`resolve`), so a path has one
location in all trees with one working directory. What is put at a path is read back there
(`read_put`), and a file at another location stays as it is (`read_put_of_apart`). The same holds for a
generated file that is brought to its text (`GeneratedFile.write_ok`).
-/
namespace EntityMapper

namespace FileTree

/-- Where a component leads to from a directory. -/
def enter (here : List String) (part : String) : List String :=
  if part = ".." then here.dropLast else here ++ [part]

/-- Where components lead to from a directory. -/
def resolve (here parts : List String) : List String :=
  parts.foldl enter here

/-- Where the file of a path is. -/
def location (tree : FileTree) (path : String) : List String :=
  resolve (tree.start path) (Path.components path).dropLast ++ (Path.components path).getLast?.toList

/-- Whatever the working directory is, the paths lead to different files. -/
def Apart (path other : String) : Prop :=
  ∀ tree : FileTree, tree.location path ≠ tree.location other

theorem resolve_append (here before after : List String) :
    resolve here (before ++ after) = resolve (resolve here before) after :=
  List.foldl_append

/-- Names other than `..` lead to themselves. -/
theorem resolve_of_not_mem {here parts : List String} (plain : ".." ∉ parts) :
    resolve here parts = here ++ parts := by
  induction parts generalizing here with
  | nil => simp [resolve]
  | cons part parts ih =>
    obtain ⟨first, others⟩ := not_or.mp (List.mem_cons.not.mp plain)
    have entered : enter here part = here ++ [part] := if_neg (Ne.symm first)
    rw [resolve, List.foldl_cons, entered]
    exact (ih others).trans (by simp)

/-- Names other than `..` behind a base lead on from where the base leads. -/
theorem location_of_components {path : String} {base own : List String} (tree : FileTree)
    (parts : Path.components path = base ++ own) (named : own ≠ []) (plain : ".." ∉ own) :
    tree.location path = resolve (tree.start path) base ++ own := by
  obtain ⟨above, last, rfl⟩ : ∃ above last, own = above ++ [last] :=
    ⟨_, _, (List.dropLast_concat_getLast named).symm⟩
  have passed : ".." ∉ above := fun member => plain (List.mem_append_left _ member)
  rw [location, parts, ← List.append_assoc, List.dropLast_concat, List.getLast?_concat,
    resolve_append, resolve_of_not_mem passed, Option.toList_some, List.append_assoc]

theorem apart_of_components {path other : String} {base own others : List String}
    (begins : Path.isAbsolute path = Path.isAbsolute other)
    (parts : Path.components path = base ++ own) (otherParts : Path.components other = base ++ others)
    (named : own ≠ [] ∧ others ≠ []) (plain : ".." ∉ own ∧ ".." ∉ others) (differ : own ≠ others) :
    Apart path other := by
  intro tree same
  have started : tree.start path = tree.start other := by rw [start, start, begins]
  rw [location_of_components tree parts named.1 plain.1,
    location_of_components tree otherParts named.2 plain.2, started] at same
  exact differ (List.append_cancel_left same)

variable {tree larger : FileTree} {here there : List String} {parts : List String}

theorem resolve_of_directory? (found : tree.directory? here parts = some there) :
    resolve here parts = there := by
  induction parts generalizing here with
  | nil => exact Option.some.inj found
  | cons part rest ih =>
    rw [directory?] at found
    rw [resolve, List.foldl_cons, enter]
    split at found
    · rename_i up
      rw [if_pos up]
      exact ih found
    · rename_i down
      rw [if_neg down]
      split at found
      · exact ih found
      · cases found

/-- All files of a tree and no others, and at least its directories. -/
structure Extends (tree larger : FileTree) : Prop where
  workingDirectory : larger.workingDirectory = tree.workingDirectory
  files : larger.files = tree.files
  directories : ∀ location, tree.isDirectory location = true → larger.isDirectory location = true

theorem Extends.refl (tree : FileTree) : tree.Extends tree :=
  ⟨rfl, rfl, fun _ exists_ => exists_⟩

theorem Extends.trans {largest : FileTree} (first : tree.Extends larger)
    (second : larger.Extends largest) : tree.Extends largest :=
  ⟨second.workingDirectory.trans first.workingDirectory, second.files.trans first.files,
    fun location found => second.directories location (first.directories location found)⟩

theorem isDirectory_addDirectory (tree : FileTree) (added location : List String) :
    (tree.addDirectory added).isDirectory location = true ↔
      location = added ∨ tree.isDirectory location = true := by
  rw [addDirectory]
  split
  · rename_i known
    exact ⟨.inr, fun found => found.elim (fun same => same ▸ known) id⟩
  · simp [isDirectory, or_left_comm]

theorem extends_addDirectory (tree : FileTree) (added : List String) :
    tree.Extends (tree.addDirectory added) := by
  refine ⟨?_, ?_, fun location known =>
    (isDirectory_addDirectory tree added location).mpr (.inr known)⟩ <;>
  · rw [addDirectory]
    split <;> rfl

/-- More directories lead to the same place. -/
theorem directory?_mono
    (grows : ∀ location, tree.isDirectory location = true → larger.isDirectory location = true)
    (found : tree.directory? here parts = some there) :
    larger.directory? here parts = some there := by
  induction parts generalizing here with
  | nil => exact found
  | cons part rest ih =>
    rw [directory?] at found ⊢
    split at found
    · rename_i up
      rw [if_pos up]
      exact ih found
    · rename_i down
      rw [if_neg down]
      split at found
      · rename_i known
        rw [if_pos (grows _ known)]
        exact ih found
      · cases found

/-- Directories that could be made are there, and nothing else has changed. -/
theorem makeDirectories_ok {after : FileTree}
    (made : tree.makeDirectories here parts = (after, .ok there)) :
    tree.Extends after ∧ after.directory? here parts = some there := by
  induction parts generalizing tree here with
  | nil =>
    cases made
    exact ⟨.refl _, rfl⟩
  | cons part rest ih =>
    rw [makeDirectories] at made
    rw [directory?]
    split at made
    · rename_i up
      rw [if_pos up]
      exact ih made
    · rename_i down
      rw [if_neg down]
      split at made
      · cases made
      · split at made
        · cases made
        · obtain ⟨larger, reached⟩ := ih made
          have known : after.isDirectory (here ++ [part]) = true :=
            larger.directories _ ((isDirectory_addDirectory tree _ _).mpr (.inl rfl))
          rw [if_pos known]
          exact ⟨(extends_addDirectory tree _).trans larger, reached⟩

/-- The path can name a file, and the directory around it exists. -/
structure Reachable (tree : FileTree) (path : String) : Prop where
  file : Path.namesDirectory path = false
  faultless : pathFault? path = none
  directory : ∃ there,
    tree.directory? (tree.start path) (Path.components path).dropLast = some there

theorem Reachable.mono {path : String} (reachable : tree.Reachable path)
    (home : larger.workingDirectory = tree.workingDirectory)
    (grows : ∀ location, tree.isDirectory location = true → larger.isDirectory location = true) :
    larger.Reachable path := by
  obtain ⟨there, found⟩ := reachable.directory
  refine ⟨reachable.file, reachable.faultless, there, ?_⟩
  rw [start, home]
  exact directory?_mono grows found

theorem location_eq (home : larger.workingDirectory = tree.workingDirectory) (path : String) :
    larger.location path = tree.location path := by
  rw [location, start, home]
  rfl

theorem Extends.location_setFile (grown : tree.Extends larger) (placed : List String)
    (content : FileContent) (path : String) :
    (larger.setFile placed content).location path = tree.location path :=
  location_eq grown.workingDirectory path

theorem makeDirectory_ok {after : FileTree} {path : String}
    (made : tree.makeDirectory path = (after, .ok there)) :
    tree.Extends after ∧
      after.directory? (tree.start path) (Path.components path) = some there := by
  rw [makeDirectory] at made
  split at made
  · cases made
  · exact makeDirectories_ok made

/-- Content can only be put at a path that can name a file. -/
theorem putIn_ok {after : FileTree} {path : String} {content : FileContent}
    (written : tree.putIn there path content = (after, .ok ())) :
    Path.namesDirectory path = false ∧ pathFault? path = none ∧
      after = tree.setFile (there ++ (Path.components path).getLast?.toList) content := by
  simp only [putIn] at written
  split at written
  · cases written
  · rename_i faultless
    split at written
    · cases written
    · rename_i notDirectory
      split at written
      · cases written
      · cases written
        simp only [Bool.or_eq_true, not_or, Bool.not_eq_true] at notDirectory
        exact ⟨notDirectory.1, faultless, rfl⟩

/-- Putting content at a path makes directories around it and then sets the file there. -/
theorem put_ok {after : FileTree} {path : String} {content : FileContent}
    (written : tree.put path content = (after, .ok ())) :
    ∃ middle, tree.Extends middle ∧ middle.Reachable path ∧
      after = middle.setFile (tree.location path) content := by
  rw [put] at written
  split at written
  · cases written
  · rename_i parent above
    split at written
    · cases written
    · rename_i middle directory made
      obtain ⟨larger, reached⟩ := makeDirectory_ok made
      obtain ⟨file, faultless, rfl⟩ := putIn_ok written
      -- The directories of the parent are those that lead to the file.
      obtain ⟨last, parts⟩ := Path.components_parent? file above
      have around : (Path.components path).dropLast = Path.components parent := by
        rw [parts, List.dropLast_concat]
      have begins : tree.start parent = tree.start path := by
        rw [start, start, Path.isAbsolute_parent? file above]
      rw [begins, ← around] at reached
      refine ⟨middle, larger, ⟨file, faultless, directory, ?_⟩, ?_⟩
      · rw [start, larger.workingDirectory]
        exact reached
      · rw [location, resolve_of_directory? reached]

theorem lookup_filter {α β : Type} [BEq α] [LawfulBEq α] {key other : α} (differ : key ≠ other)
    (rows : List (α × β)) : (rows.filter (·.1 != other)).lookup key = rows.lookup key := by
  induction rows with
  | nil => rfl
  | cons row rows ih =>
    by_cases same : row.1 = other
    · have skipped : (key == row.1) = false := beq_false_of_ne (same ▸ differ)
      rw [List.filter_cons_of_neg (by simp [same]), List.lookup_cons, skipped, ih]
    · rw [List.filter_cons_of_pos (by simp [same]), List.lookup_cons, List.lookup_cons, ih]

theorem file?_setFile (tree : FileTree) (location : List String) (content : FileContent) :
    (tree.setFile location content).file? location = some content := by
  simp [file?, setFile]

theorem file?_setFile_of_ne {location other : List String} (differ : other ≠ location)
    (tree : FileTree) (content : FileContent) :
    (tree.setFile location content).file? other = tree.file? other := by
  have skipped : (other == location) = false := beq_false_of_ne differ
  simp [file?, setFile, List.lookup_cons, skipped, lookup_filter differ]

/-- A text is read where the directory is there and the file holds it. -/
theorem read_eq_some {path s : String} :
    tree.read path = some s ↔
      tree.Reachable path ∧ tree.file? (tree.location path) = some (.text s) := by
  simp only [read]
  split
  · rename_i unreadable
    refine iff_of_false nofun fun ⟨reachable, _⟩ => ?_
    simp [reachable.file, reachable.faultless] at unreadable
  · rename_i readable
    simp only [Bool.or_eq_true, not_or, Bool.not_eq_true, Option.isSome_eq_false_iff,
      Option.isNone_iff_eq_none] at readable
    cases found : tree.directory? (tree.start path) (Path.components path).dropLast with
    | none =>
      refine iff_of_false nofun fun ⟨reachable, _⟩ => ?_
      obtain ⟨there, reached⟩ := reachable.directory
      cases found.symm.trans reached
    | some there =>
      have reachable : tree.Reachable path := ⟨readable.1, readable.2, there, found⟩
      have leads : there ++ (Path.components path).getLast?.toList = tree.location path := by
        rw [location, resolve_of_directory? found]
      simp only [leads, reachable, true_and]
      split <;> simp_all

/-- What is put at a path is read back there. -/
theorem read_put {after : FileTree} {path s : String}
    (written : tree.put path (.text s) = (after, .ok ())) : after.read path = some s := by
  obtain ⟨middle, larger, reachable, rfl⟩ := put_ok written
  refine read_eq_some.mpr ⟨reachable.mono rfl fun _ known => known, ?_⟩
  rw [larger.location_setFile]
  exact file?_setFile middle _ _

/-- What is at another location is read as before. -/
theorem read_put_of_apart {after : FileTree} {path other s : String} {content : FileContent}
    (written : tree.put path content = (after, .ok ())) (apart : Apart path other)
    (held : tree.read other = some s) : after.read other = some s := by
  obtain ⟨middle, larger, _, rfl⟩ := put_ok written
  obtain ⟨reachable, holds⟩ := read_eq_some.mp held
  refine read_eq_some.mpr ⟨reachable.mono larger.workingDirectory larger.directories, ?_⟩
  rw [larger.location_setFile, file?_setFile_of_ne (apart tree).symm, file?,
    larger.files]
  exact holds

end FileTree

open FileTree (Apart)

/-- Writing puts the text of the file, unless it is there already. -/
theorem GeneratedFile.run_write (file : GeneratedFile) (tree : FileTree) :
    (file.write FileTree.store).run tree =
      if tree.read file.path = some file.render then (.ok .unchanged, tree)
      else
        let (outcome, after) := (tree.put file.path (.text file.render)).swap
        ((outcome.mapError (·.message)).map fun _ => .written, after) := by
  change StateT.run (if tree.read file.path = some file.render then _ else _) tree = _
  by_cases held : tree.read file.path = some file.render
  · rw [if_pos held, if_pos held]
    rfl
  · rw [if_neg held, if_neg held]
    rfl

/-- A file that was brought to its text holds it, and files elsewhere hold what they held. -/
theorem GeneratedFile.write_ok {file : GeneratedFile} {tree after : FileTree}
    {outcome : WriteOutcome} (ran : (file.write FileTree.store).run tree = (.ok outcome, after)) :
    after.read file.path = some file.render ∧
      ∀ other s, Apart file.path other → tree.read other = some s → after.read other = some s := by
  rw [run_write] at ran
  split at ran
  · rename_i held
    cases ran
    exact ⟨held, fun _ _ _ kept => kept⟩
  · cases put : tree.put file.path (.text file.render) with
    | mk written result =>
      cases result with
      | error fault =>
        rw [put] at ran
        cases ran
      | ok done =>
        rw [put] at ran
        cases ran
        exact ⟨FileTree.read_put put, fun other s apart => FileTree.read_put_of_apart put apart⟩

end EntityMapper
