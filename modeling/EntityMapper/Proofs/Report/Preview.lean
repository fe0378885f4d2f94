import EntityMapper.Proofs.Report.Files
import EntityMapper.Proofs.Storage.FileMap
import EntityMapper.Proofs.Updates

/-!
# A dry run shows what a run does

Over files held as a map, where writing always succeeds, a run ends with the files of its plan set one
after the other (`run_writeFiles`). So it can fail only before the first of them, where the dry run
fails too; and if the places of the files are distinct, each holds what the dry run showed and a second
run finds nothing to do (`preview_faithful`).
-/
namespace EntityMapper

namespace GeneratedFile

variable {κ : Type} (place : String → κ) {files : FileMap κ} {planned : List GeneratedFile}

/-- The places of files, in order. -/
def places (planned : List GeneratedFile) : List κ :=
  planned.map fun file => place file.path

/-- The text of each file is at its place. -/
def HeldBy (files : FileMap κ) (planned : List GeneratedFile) : Prop :=
  ∀ file ∈ planned, files (place file.path) = some (.text file.render)

/-- What is told of each file if all are compared with the same files. -/
def outcomesOn (files : FileMap κ) (planned : List GeneratedFile) : List (String × WriteOutcome) :=
  planned.map fun file => (file.path, FileMap.outcome place files file.path file.render)

variable {place}

/-- Nothing is told of files that hold their texts but that they do. -/
theorem outcomesOn_of_heldBy (held : HeldBy place files planned) :
    outcomesOn place files planned = planned.map fun file => (file.path, .unchanged) := by
  unfold outcomesOn
  apply List.map_congr_left
  intro file member
  rw [FileMap.outcome_eq_unchanged.mpr (held file member)]

variable [DecidableEq κ]

/-- The files of a plan, set one after the other. -/
def setAll (place : String → κ) (files : FileMap κ) (planned : List GeneratedFile) : FileMap κ :=
  updateAll (fun file => place file.path) (fun file => some (.text file.render)) files planned

/-- What is told of files that are brought to their texts one after the other. -/
def outcomes (place : String → κ) (files : FileMap κ) :
    List GeneratedFile → List (String × WriteOutcome)
  | [] => []
  | file :: rest =>
    (file.path, FileMap.outcome place files file.path file.render) ::
      outcomes place (files.setText (place file.path) file.render) rest

theorem heldBy_setAll (distinct : (places place planned).Nodup) :
    HeldBy place (setAll place files planned) planned := by
  intro file member
  exact updateAll_of_mem distinct member

/-- Files that hold their texts already are left alone. -/
theorem setAll_of_heldBy (held : HeldBy place files planned) : setAll place files planned = files :=
  updateAll_eq_self held

/-- At distinct places, what is told of a file does not depend on the files before it. -/
theorem outcomes_of_nodup (distinct : (places place planned).Nodup) :
    outcomes place files planned = outcomesOn place files planned := by
  induction planned generalizing files with
  | nil => rfl
  | cons first rest ih =>
    obtain ⟨absent, others⟩ := List.nodup_cons.mp distinct
    have same : outcomesOn place (files.setText (place first.path) first.render) rest =
        outcomesOn place files rest := by
      unfold outcomesOn
      apply List.map_congr_left
      intro file member
      have differ : place file.path ≠ place first.path := by
        intro clash
        exact absent (List.mem_map.mpr ⟨file, member, clash⟩)
      rw [FileMap.outcome_setText_of_ne differ]
    unfold outcomes
    rw [ih others, same]
    rfl

end GeneratedFile

open GeneratedFile (places setAll outcomes outcomesOn HeldBy)

namespace GenerateReport

variable {κ : Type} [DecidableEq κ] (place : String → κ)

/-- Writing all files succeeds, and leaves each of them set in order. -/
theorem run_writeFiles (planned : List GeneratedFile) (files : FileMap κ) :
    (writeFiles (FileMap.store place) planned).run files =
      (.ok (outcomes place files planned), setAll place files planned) := by
  induction planned generalizing files with
  | nil => rfl
  | cons file rest ih =>
    simp only [writeFiles, StateT.run_bind, GeneratedFile.run_write_fileMap]
    change (((writeFiles (FileMap.store place) rest).run
      (files.setText (place file.path) file.render)).map (·.map
        ((file.path, FileMap.outcome place files file.path file.render) :: ·)) id) = _
    rw [ih]
    rfl

/-- A run, or a dry run, over files held as a map. -/
def runOn (manifest : Manifest) (options : GenerateOptions) (dryRun : Bool) (files : FileMap κ) :
    Except OperationError GenerateReport × FileMap κ :=
  (ofManifest (FileMap.store place) manifest { options with dryRun := dryRun }).run files

/-- What a dry run shows of a plan. -/
def ofPlanned (plan : GenerationPlan) : GenerateReport :=
  ⟨plan.database, plan.skipped, .preview (plan.files.map fun file => (file.path, file.render))⟩

/-- What is told of a plan once its files are written. -/
def ofWritten (plan : GenerationPlan) (outcomes : List (String × WriteOutcome)) : GenerateReport :=
  ⟨plan.database, plan.skipped, .written outcomes⟩

variable {manifest : Manifest} {options : GenerateOptions} {plan : GenerationPlan}

theorem runOn_of_error {cause : OperationError}
    (failed : GenerationPlan.ofManifest manifest options = .error cause) (dryRun : Bool)
    (files : FileMap κ) : runOn place manifest options dryRun files = (.error cause, files) := by
  have same : GenerationPlan.ofManifest manifest { options with dryRun := dryRun } = .error cause :=
    failed
  unfold runOn ofManifest
  rw [same]
  rfl

theorem runOn_dry (planned : GenerationPlan.ofManifest manifest options = .ok plan)
    (files : FileMap κ) :
    runOn place manifest options true files = (.ok (ofPlanned plan), files) := by
  have same : GenerationPlan.ofManifest manifest { options with dryRun := true } = .ok plan := planned
  unfold runOn ofManifest
  rw [same]
  rfl

theorem runOn_real (planned : GenerationPlan.ofManifest manifest options = .ok plan)
    (files : FileMap κ) :
    runOn place manifest options false files =
      (.ok (ofWritten plan (outcomes place files plan.files)), setAll place files plan.files) := by
  have same : GenerationPlan.ofManifest manifest { options with dryRun := false } = .ok plan := planned
  unfold runOn ofManifest ofPlan
  rw [same]
  simp only [Bool.false_eq_true, if_false, StateT.run_bind, run_writeFiles]
  rfl

end GenerateReport

/-- What a run over files did, compared with what was shown before. -/
structure CarriesOut {κ : Type} (place : String → κ) (shown : List (String × String))
    (files after : FileMap κ) (outcomes : List (String × WriteOutcome)) : Prop where
  /-- The same paths in the same order. -/
  listed : outcomes.map Prod.fst = shown.map Prod.fst
  /-- Exactly the text shown is at each of them. -/
  left : ∀ path s, (path, s) ∈ shown → after (place path) = some (.text s)
  /-- No other place is touched. -/
  elsewhere : ∀ key, key ∉ shown.map (fun entry => place entry.1) → after key = files key
  /-- A path is told unchanged exactly if its text was there before. -/
  unchanged : ∀ path s, (path, s) ∈ shown →
    ((path, .unchanged) ∈ outcomes ↔ files (place path) = some (.text s))

/-- Files set at distinct places carry out what was shown of them. -/
theorem GeneratedFile.carriesOut {κ : Type} [DecidableEq κ] {place : String → κ}
    {planned : List GeneratedFile} (distinct : (places place planned).Nodup) (files : FileMap κ) :
    CarriesOut place (planned.map fun file => (file.path, file.render)) files
      (setAll place files planned) (outcomes place files planned) := by
  rw [outcomes_of_nodup distinct]
  constructor
  · simp [outcomesOn, Function.comp_def]
  · intro path s member
    obtain ⟨file, among, same⟩ := List.mem_map.mp member
    cases same
    exact heldBy_setAll distinct file among
  · intro key absent
    apply updateAll_of_not_mem
    simpa [Function.comp_def] using absent
  · intro path s member
    obtain ⟨file, among, same⟩ := List.mem_map.mp member
    cases same
    rw [← FileMap.outcome_eq_unchanged]
    constructor
    · intro told
      -- Only one file has this path, so what is told of the path is told of this file.
      obtain ⟨other, inPlan, entry⟩ := List.mem_map.mp told
      obtain ⟨path, outcome⟩ := Prod.mk.inj entry
      have one : other = file :=
        List.inj_on_of_nodup_map distinct inPlan among (congrArg place path)
      rw [← one]
      exact outcome
    · intro same
      apply List.mem_map.mpr
      exact ⟨file, among, by rw [same]⟩

/-- A run that fails changes no file, nor does a dry run; both fail for the same causes. A dry run
that succeeds shows each file with its header. If the shown paths lead to distinct places, the run
leaves there exactly what was shown, and a second run finds every file unchanged. -/
theorem preview_faithful {κ : Type} [DecidableEq κ] (place : String → κ) (manifest : Manifest)
    (options : GenerateOptions) (files : FileMap κ) :
    (∀ dryRun cause, (GenerateReport.runOn place manifest options dryRun files).1 = .error cause →
        (GenerateReport.runOn place manifest options dryRun files).2 = files) ∧
      (GenerateReport.runOn place manifest options true files).2 = files ∧
      (∀ cause, (GenerateReport.runOn place manifest options false files).1 = .error cause ↔
        (GenerateReport.runOn place manifest options true files).1 = .error cause) ∧
      ∀ preview, (GenerateReport.runOn place manifest options true files).1 = .ok preview →
        ∃ shown report outcomes after, preview.result = .preview shown ∧
          (∀ path s, (path, s) ∈ shown → ∃ source, s = GeneratedFile.header ++ "\n" ++ source) ∧
          GenerateReport.runOn place manifest options false files = (.ok report, after) ∧
          report = { preview with result := .written outcomes } ∧
          ((shown.map fun entry => place entry.1).Nodup →
            CarriesOut place shown files after outcomes ∧
            GenerateReport.runOn place manifest options false after =
              (.ok { preview with
                result := .written (shown.map fun entry => (entry.1, .unchanged)) }, after)) := by
  cases planned : GenerationPlan.ofManifest manifest options with
  | error cause =>
    have failed := GenerateReport.runOn_of_error place planned
    simp [failed]
  | ok plan =>
    have dry := GenerateReport.runOn_dry place planned
    have real := GenerateReport.runOn_real place planned
    refine ⟨?_, ?_, ?_, ?_⟩
    · intro dryRun cause failed
      cases dryRun with
      | false => simp [real] at failed
      | true => simp [dry] at failed
    · simp [dry]
    · simp [dry, real]
    · intro preview shows
      rw [dry] at shows
      cases shows
      refine ⟨_, _, _, _, rfl, ?_, real files, rfl, ?_⟩
      · intro path s member
        obtain ⟨file, _, same⟩ := List.mem_map.mp member
        cases same
        exact ⟨file.content, rfl⟩
      · intro distinct
        replace distinct : (places place plan.files).Nodup := by
          simpa [places, Function.comp_def] using distinct
        refine ⟨GeneratedFile.carriesOut distinct files, ?_⟩
        have held : HeldBy place (setAll place files plan.files) plan.files :=
          GeneratedFile.heldBy_setAll distinct
        rw [real, GeneratedFile.setAll_of_heldBy held, GeneratedFile.outcomes_of_nodup distinct,
          GeneratedFile.outcomesOn_of_heldBy held]
        simp [GenerateReport.ofWritten, GenerateReport.ofPlanned, Function.comp_def]

set_option maxRecDepth 2000 in
/-- The orders of two regions are previewed, written where nothing was, and then found unchanged. A
run without the class of the tables fails and writes nothing. -/
theorem regionManifest_previewed :
    (GenerateReport.runOn id regionManifest {} false fun _ => none).2 = (fun _ => none) ∧
      ∃ preview shown report outcomes after,
        (GenerateReport.runOn id regionManifest regionOptions true fun _ => none).1 = .ok preview ∧
        preview.result = .preview shown ∧
        shown.map Prod.fst = ["src/north/OrderMapper.java", "src/south/OrderMapper.java"] ∧
        GenerateReport.runOn id regionManifest regionOptions false (fun _ => none) =
          (.ok report, after) ∧
        CarriesOut id shown (fun _ => none) after outcomes ∧
        GenerateReport.runOn id regionManifest regionOptions false after =
          (.ok { preview with
            result := .written (shown.map fun entry => (entry.1, .unchanged)) }, after) := by
  constructor
  · have failed : (GenerationPlan.ofManifest regionManifest {}) = .error .noTablesClass := by
      decide +kernel
    have ended := GenerateReport.runOn_of_error id failed false fun _ => none
    exact (preview_faithful id regionManifest {} fun _ => none).1 false .noTablesClass (by rw [ended])
  · obtain ⟨plan, planned, listed⟩ := exists_ok_and
      (show (GenerationPlan.ofManifest regionManifest regionOptions).toOption.any (fun plan =>
          plan.files.map (·.path) == ["src/north/OrderMapper.java", "src/south/OrderMapper.java"]) =
            true by
        decide +kernel)
    have shows := GenerateReport.runOn_dry id planned fun _ => none
    obtain ⟨_, _, _, previewed⟩ := preview_faithful id regionManifest regionOptions fun _ => none
    obtain ⟨shown, report, outcomes, after, result, _, ran, _, faithful⟩ :=
      previewed (GenerateReport.ofPlanned plan) (by rw [shows])
    have paths : shown.map Prod.fst =
        ["src/north/OrderMapper.java", "src/south/OrderMapper.java"] := by
      cases result
      simpa [Function.comp_def] using listed
    have distinct : (shown.map fun entry => id entry.1).Nodup := by
      change (shown.map Prod.fst).Nodup
      rw [paths]
      decide
    obtain ⟨carried, again⟩ := faithful distinct
    exact ⟨_, shown, report, outcomes, after, by rw [shows], result, paths, ran, carried, again⟩

end EntityMapper
