import EntityMapper.Proofs.Manifest.WellFormed

/-!
# What diagnostics say apart from where

A check reads the text of a manifest for places alone: locators that agree on the declarations around
them word every finding alike (`Locator.WordsAlike`). This passes from the checks of single names to
the whole validation, so whether a manifest is accepted and what is said otherwise depends on nothing
but the manifest (`validation_exact`).
-/
namespace EntityMapper

namespace Diagnostic

/-- The diagnostic without its file and its places. -/
def unplaced : Diagnostic → Diagnostic
  | unreadable path => unreadable path
  | malformed _ => malformed ""
  | invalid _ _ message => invalid "" none message
  | duplicate _ _ _ kind name => duplicate "" none none kind name
  | reservedWord _ _ name context => reservedWord "" none name context
  | invalidName _ _ name context reason => invalidName "" none name context reason

/-- File and places are no part of the texts. -/
theorem texts_unplaced (diagnostic : Diagnostic) :
    diagnostic.unplaced.message = diagnostic.message ∧
      diagnostic.unplaced.code? = diagnostic.code? ∧ diagnostic.unplaced.help? = diagnostic.help? := by
  cases diagnostic <;> exact ⟨rfl, rfl, rfl⟩

end Diagnostic

namespace Locator

/-- Locators inside the same declarations get the same outcome from the check, but for the file and
the places that it names. -/
def WordsAlike (check : Locator → Except Diagnostic Unit) : Prop :=
  ∀ first second : Locator, first.path = second.path →
    (check first).mapError Diagnostic.unplaced = (check second).mapError Diagnostic.unplaced

namespace WordsAlike

variable {check next : Locator → Except Diagnostic Unit}

theorem ok : WordsAlike fun _ => .ok () :=
  fun _ _ _ => rfl

theorem error {finding : Locator → Diagnostic}
    (worded : ∀ first second : Locator, first.path = second.path →
      (finding first).unplaced = (finding second).unplaced) :
    WordsAlike fun locator => .error (finding locator) :=
  fun first second same => congrArg Except.error (worded first second same)

theorem ite {condition : Prop} {_ : Decidable condition} (yes : WordsAlike check) (no : WordsAlike next) :
    WordsAlike fun locator => if condition then check locator else next locator := by
  by_cases holds : condition
  · simpa only [if_pos holds] using yes
  · simpa only [if_neg holds] using no

theorem andThen (first : WordsAlike check) (later : WordsAlike next) :
    WordsAlike fun locator => check locator >>= fun _ => next locator := by
  intro one other same
  have checked := first one other same
  cases here : check one with
  | error finding =>
    rw [here] at checked
    cases there : check other with
    | error also => simpa [bind, Except.bind, Except.mapError, here, there] using checked
    | ok _ => simp [there, Except.mapError] at checked
  | ok _ =>
    rw [here] at checked
    cases there : check other with
    | error also => simp [there, Except.mapError] at checked
    | ok _ => simpa only [here, there, bind, Except.bind] using later one other same

/-- A locator may move before it checks, as far as its path lets it. -/
theorem moved {place : Locator → Locator}
    (kept : ∀ first second : Locator, first.path = second.path →
      (place first).path = (place second).path)
    (worded : WordsAlike check) : WordsAlike fun locator => check (place locator) :=
  fun first second same => worded _ _ (kept first second same)

theorem each {α : Type} {check : Locator → List α → α → Except Diagnostic Unit}
    (step : ∀ before a, WordsAlike (check · before a)) (before list : List α) :
    WordsAlike fun locator => Manifest.checkEach (check locator) before list := by
  induction list generalizing before with
  | nil => exact ok
  | cons a rest ih => exact (step before a).andThen (ih (a :: before))

theorem invalid (name message : String) :
    WordsAlike fun locator => .error (locator.invalid name message) :=
  error fun _ _ _ => rfl

theorem duplicate (kind name : String) (occurrence : Nat) :
    WordsAlike fun locator => .error (locator.duplicate kind name occurrence) :=
  error fun _ _ _ => rfl

theorem contextFor {first second : Locator} (same : first.path = second.path) (kind : String) :
    first.contextFor kind = second.contextFor kind := by
  rw [Locator.contextFor, Locator.contextFor, dottedPath, dottedPath, same]

theorem reservedWord (word located kind : String) :
    WordsAlike fun locator => .error (locator.reservedWord word located kind) :=
  error fun _ _ same => congrArg (Diagnostic.reservedWord "" none word) (contextFor same kind)

theorem invalidName (name kind reason : String) :
    WordsAlike fun locator => .error (locator.invalidName name kind reason) :=
  error fun _ _ same =>
    congrArg (Diagnostic.invalidName "" none name · reason) (contextFor same kind)

end WordsAlike

open WordsAlike

theorem checkName_wordsAlike (name kind : String) :
    WordsAlike fun locator => locator.checkName name kind := by
  refine (WordsAlike.reservedWord name name kind).ite ?_
  cases identifierFault? name with
  | none => exact ok
  | some reason => exact WordsAlike.invalidName name kind reason

theorem checkQualifiedName_wordsAlike (name kind : String) :
    WordsAlike fun locator => locator.checkQualifiedName name kind := by
  unfold checkQualifiedName
  cases qualifiedNameFault? name with
  | some reason => exact WordsAlike.invalidName name kind reason
  | none =>
    cases (Text.segments '.' name).find? Java.isReserved with
    | some part => exact WordsAlike.reservedWord part name kind
    | none => exact ok

theorem checkType_wordsAlike (type kind : String) :
    WordsAlike fun locator => locator.checkType type kind :=
  ok.ite (WordsAlike.invalidName type kind _)

end Locator

namespace Manifest

open Locator Locator.WordsAlike

theorem checkOptionalName_wordsAlike (name : Option String) (kind : String) :
    WordsAlike fun locator => checkOptionalName locator name kind := by
  cases name with
  | none => exact ok
  | some given => exact checkQualifiedName_wordsAlike given kind

theorem checkDatabase_wordsAlike (options : DatabaseOptions) :
    WordsAlike fun locator => checkDatabase locator options :=
  (ok.ite (WordsAlike.invalid options.dialect _)).andThen
    ((checkOptionalName_wordsAlike options.package _).andThen
      (checkOptionalName_wordsAlike options.tablesClass _))

theorem checkConverter_wordsAlike (name : String) (decl : ConverterDeclaration) :
    WordsAlike fun locator => checkConverter locator name decl := by
  have inner (type kind : String) : WordsAlike fun locator =>
      ((locator.inside name).anchoredAt name).checkType type kind :=
    (checkType_wordsAlike type kind).moved fun _ _ same => congrArg (· ++ [name]) same
  exact (checkQualifiedName_wordsAlike name _).andThen
    ((inner decl.fromType _).andThen (inner decl.toType _))

theorem checkFresh_wordsAlike (kind name : String) (before : List String) :
    WordsAlike fun locator => checkFresh locator kind name before :=
  (WordsAlike.duplicate kind name _).ite ok

theorem checkClassName_wordsAlike (before : List ClassDeclaration) (decl : ClassDeclaration) :
    WordsAlike fun locator => checkClassName locator before decl :=
  (checkQualifiedName_wordsAlike decl.name _).andThen (checkFresh_wordsAlike _ _ _)

variable (manifest : Manifest)

theorem checkConverterReference_wordsAlike (options : ColumnOptions) :
    WordsAlike fun locator => checkConverterReference manifest locator options := by
  unfold checkConverterReference
  cases options.converter with
  | none => exact ok
  | some name => exact ok.ite (WordsAlike.invalid name _)

theorem checkOverridePath_wordsAlike (path : String) :
    WordsAlike fun locator => checkOverridePath locator path :=
  ok.ite (WordsAlike.invalid path _)

theorem checkOverrides_wordsAlike (overrides : Overrides) :
    WordsAlike fun locator => checkOverrides manifest locator overrides := by
  refine each (fun _ entry => ?_) [] overrides
  exact (checkOverridePath_wordsAlike entry.1).andThen
    (checkConverterReference_wordsAlike manifest entry.2)

theorem checkMapping_wordsAlike (field : FieldDeclaration) :
    WordsAlike fun locator => checkMapping manifest locator field := by
  refine (checkConverterReference_wordsAlike manifest _).andThen ?_
  cases field.embedded with
  | none => exact ok
  | some inner =>
    exact (WordsAlike.invalid field.name _).ite
      ((WordsAlike.invalid field.type _).ite (checkOverrides_wordsAlike manifest inner))

theorem checkField_wordsAlike (className : String) (before : List FieldDeclaration)
    (field : FieldDeclaration) :
    WordsAlike fun locator => checkField manifest locator className before field := by
  refine (checkName_wordsAlike field.name _).andThen ((checkType_wordsAlike field.type _).andThen
    ((checkFresh_wordsAlike _ _ _).andThen
      ((checkMapping_wordsAlike manifest field).moved fun _ _ same => ?_)))
  exact congrArg (· ++ [field.name]) same

theorem checkMembers_wordsAlike (decl : ClassDeclaration) :
    WordsAlike fun locator => checkMembers locator decl :=
  ((each (fun _ constant => checkName_wordsAlike constant _) [] decl.constants).andThen
    (ok.ite (WordsAlike.invalid decl.name _))).ite (ok.ite (WordsAlike.invalid decl.name _))

theorem checkClass_wordsAlike (decl : ClassDeclaration) :
    WordsAlike fun locator => checkClass manifest locator decl :=
  (checkOptionalName_wordsAlike decl.superclass _).andThen
    ((checkMembers_wordsAlike decl).andThen
      ((each (checkField_wordsAlike manifest decl.name) [] decl.fields).andThen
        (checkOverrides_wordsAlike manifest decl.overrides)))

theorem checkDeclaration_wordsAlike (before : List ClassDeclaration) (decl : ClassDeclaration) :
    WordsAlike fun locator => checkDeclaration manifest locator before decl :=
  (checkClass_wordsAlike manifest decl).moved fun _ _ same => congrArg (· ++ [decl.name]) same

/-- Whatever text a manifest is said to come from, it is accepted or refused in the same words. -/
theorem validate_unplaced (source file otherSource otherFile : String) :
    (manifest.validate source file).mapError Diagnostic.unplaced =
      (manifest.validate otherSource otherFile).mapError Diagnostic.unplaced := by
  have converters := each (fun _ (entry : String × ConverterDeclaration) =>
    checkConverter_wordsAlike entry.1 entry.2) [] manifest.converters
  have names := each checkClassName_wordsAlike [] manifest.classes
  have classes := each (checkDeclaration_wordsAlike manifest) [] manifest.classes
  have worded := (checkDatabase_wordsAlike manifest.database).andThen
    (converters.andThen (names.andThen classes))
  exact worded { source := source, file := file } { source := otherSource, file := otherFile } rfl

end Manifest

/-- A manifest is accepted exactly if it is well-formed, and the text and the file it is said to come
from change nothing about a diagnostic but the file and the places in it: the kind and all texts stay. -/
theorem validation_exact (manifest : Manifest) (source file : String) :
    (manifest.validate source file = .ok () ↔ manifest.WellFormed) ∧
      ∀ diagnostic, manifest.validate source file = .error diagnostic →
        ∀ otherSource otherFile, ∃ other,
          manifest.validate otherSource otherFile = .error other ∧
            other.unplaced = diagnostic.unplaced ∧ other.message = diagnostic.message ∧
            other.code? = diagnostic.code? ∧ other.help? = diagnostic.help? := by
  refine ⟨Manifest.validate_eq_ok, fun diagnostic refused otherSource otherFile => ?_⟩
  have worded := manifest.validate_unplaced source file otherSource otherFile
  rw [refused] at worded
  cases again : manifest.validate otherSource otherFile with
  | ok _ => simp [again, Except.mapError] at worded
  | error other =>
    rw [again] at worded
    have same : diagnostic.unplaced = other.unplaced := Except.error.inj worded
    obtain ⟨message, code, help⟩ := diagnostic.texts_unplaced
    obtain ⟨otherMessage, otherCode, otherHelp⟩ := other.texts_unplaced
    rw [same] at message code help
    exact ⟨other, rfl, same.symm, otherMessage.symm.trans message, otherCode.symm.trans code,
      otherHelp.symm.trans help⟩

end EntityMapper
