import EntityMapper.Storage.GeneratedFile
import Mathlib.Logic.Function.Basic

/-!
# Files held as a map

A store that is a map from places to contents, where writing always succeeds. Which paths lead to one
place is left open (`place`). Bringing a file to its text sets what is at its place and touches no
other one (`GeneratedFile.run_write_fileMap`), and is without effect where the text is already.
-/
namespace EntityMapper

/-- What is at each place, if anything is. -/
abbrev FileMap (κ : Type) := κ → Option FileContent

namespace FileMap

variable {κ : Type} {place : String → κ} {files : FileMap κ} {key : κ} {path s t : String}

/-- The text at a place, if what is there is text. -/
def text? (files : FileMap κ) (key : κ) : Option String :=
  match files key with
  | some (.text s) => some s
  | _ => none

/-- What is told of a file that is to have a text. -/
def outcome (place : String → κ) (files : FileMap κ) (path s : String) : WriteOutcome :=
  if files (place path) = some (.text s) then .unchanged else .written

theorem text?_eq_some (files : FileMap κ) (key : κ) (s : String) :
    files.text? key = some s ↔ files key = some (.text s) := by
  unfold text?
  cases files key with
  | none => simp
  | some content => cases content <;> simp

theorem outcome_eq_unchanged :
    outcome place files path s = .unchanged ↔ files (place path) = some (.text s) := by
  unfold outcome
  split <;> simp_all

variable [DecidableEq κ]

/-- Sets the text at a place. -/
def setText (files : FileMap κ) (key : κ) (s : String) : FileMap κ :=
  Function.update files key (some (.text s))

/-- Reads and writes a map; every write succeeds. -/
def store (place : String → κ) : FileStore (StateM (FileMap κ)) where
  read path := do return (← get).text? (place path)
  write path s := do
    modify fun files => files.setText (place path) s
    return .ok ()

/-- Setting the text that is there changes nothing. -/
theorem setText_of_held (held : files key = some (.text s)) : files.setText key s = files := by
  unfold setText
  rw [← held, Function.update_eq_self]

/-- What is told of a file does not depend on what is set elsewhere. -/
theorem outcome_setText_of_ne (differ : place path ≠ key) :
    outcome place (files.setText key t) path s = outcome place files path s := by
  unfold outcome setText
  rw [Function.update_of_ne differ]

end FileMap

open FileMap in
/-- Writing a file leaves its text at its place and tells whether it was there before. -/
theorem GeneratedFile.run_write_fileMap {κ : Type} [DecidableEq κ] (place : String → κ)
    (file : GeneratedFile) (files : FileMap κ) :
    (file.write (FileMap.store place)).run files =
      (.ok (outcome place files file.path file.render),
        files.setText (place file.path) file.render) := by
  change StateT.run (if files.text? (place file.path) = some file.render then _ else _) files = _
  by_cases held : files (place file.path) = some (.text file.render)
  · have read := (text?_eq_some files _ _).mpr held
    rw [if_pos read, outcome_eq_unchanged.mpr held, setText_of_held held]
    rfl
  · have unread := mt (text?_eq_some files _ _).mp held
    rw [if_neg unread]
    unfold outcome
    rw [if_neg held]
    rfl

end EntityMapper
