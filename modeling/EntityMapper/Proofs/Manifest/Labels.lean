import EntityMapper.Manifest.Validation
import EntityMapper.Proofs.Manifest.Names
import EntityMapper.Proofs.Manifest.Places
import EntityMapper.Proofs.Outcome
import EntityMapper.Proofs.Text.Segments

/-!
# What labels point at

Each diagnostic is about one string of the manifest: its name, the name quoted in its message, or for a
reserved word the first name checked that has such a word among its segments (`Manifest.Concerns`). A
check pinpoints its findings if their labels hold that string and stand from the anchor on
(`Locator.Pinpoints`). That passes from the checks of single names to the validation
(`Manifest.labels_at_subject`), as a locator only ever moves forward.
-/
namespace EntityMapper

/-- The locator that a class is checked with. -/
def Locator.ofDeclaration (locator : Locator) (before : List ClassDeclaration)
    (decl : ClassDeclaration) : Locator :=
  (locator.inside decl.name).anchoredAtSpan
    (locator.spans decl.name)[(before.map (·.name)).count decl.name]?

/-- A name that may not have reserved words, with its kind and the locator it is checked with. -/
structure CheckedName where
  locator : Locator
  kind : String
  name : String

/-- The first reserved word among the segments of the name. -/
def CheckedName.word? (checked : CheckedName) : Option String :=
  (Text.segments '.' checked.name).find? Java.isReserved

namespace Manifest

/-- The names of each element, given with the elements before it, latest first. -/
def namesOfEach {α : Type} (names : List α → α → List CheckedName) (before : List α) :
    List α → List CheckedName
  | [] => []
  | a :: rest => names before a ++ namesOfEach names (a :: before) rest

/-- Where the elements before do not matter. -/
theorem namesOfEach_eq_flatMap {α : Type} (names : α → List CheckedName) (before list : List α) :
    namesOfEach (fun _ => names) before list = list.flatMap names := by
  induction list generalizing before with
  | nil => rfl
  | cons a rest ih => rw [namesOfEach, ih, List.flatMap_cons]

def optionalName (locator : Locator) (name : Option String) (kind : String) : List CheckedName :=
  name.toList.map (⟨locator, kind, ·⟩)

def databaseNames (locator : Locator) (options : DatabaseOptions) : List CheckedName :=
  optionalName locator options.package "package" ++
    optionalName locator options.tablesClass "tables class"

def memberNames (locator : Locator) (decl : ClassDeclaration) : List CheckedName :=
  if decl.kind = .enumeration then decl.constants.map (⟨locator, "enum constant", ·⟩) else []

def classNames (locator : Locator) (decl : ClassDeclaration) : List CheckedName :=
  optionalName locator decl.superclass "superclass" ++ memberNames locator decl ++
    decl.fields.map fun field => ⟨locator, "field", field.name⟩

/-- The names of a manifest in the order in which they are checked. -/
def checkedNames (manifest : Manifest) (locator : Locator) : List CheckedName :=
  databaseNames locator manifest.database ++
    manifest.converters.map (fun entry => ⟨locator, "converter", entry.1⟩) ++
    manifest.classes.map (fun decl => ⟨locator, "class", decl.name⟩) ++
    namesOfEach (fun before decl => classNames (locator.ofDeclaration before decl) decl) []
      manifest.classes

/-- What stands before and after the name in each message that quotes one. -/
def quotations : List (String × String) := [
  ("dialect '", "' may only contain letters, digits and '_'"),
  ("converter '", "' is not declared in [converters]"),
  ("override path '", "' must be dot-separated field names"),
  ("embedded field '", "' cannot declare column metadata; use overrides instead"),
  ("embedded type '", "' is not declared in [[classes]]"),
  ("enum '", "' cannot declare fields"),
  ("only enums declare constants, '", "' is not an enum")]

/-- The string that a diagnostic is about, where the names were checked in their order. -/
inductive Concerns (names : List CheckedName) : Diagnostic → String → Prop where
  | invalid {file : String} {span : Option Span} (quotation : String × String) (name : String)
    (worded : quotation ∈ quotations) :
    Concerns names (.invalid file span (quotation.1 ++ name ++ quotation.2)) name
  | duplicate {file : String} {first second : Option Span} {kind name : String} :
    Concerns names (.duplicate file first second kind name) name
  | invalidName {file : String} {span : Option Span} {name context reason : String} :
    Concerns names (.invalidName file span name context reason) name
  /-- The first of the names that has a reserved word, with the first of its reserved words. -/
  | reservedWord {checked : CheckedName} {word : String}
    (first : names.find? (·.word?.isSome) = some checked) (met : checked.word? = some word) :
    Concerns names (.reservedWord checked.locator.file (checked.locator.span? checked.name) word
      (checked.locator.contextFor checked.kind)) checked.name

variable {names others : List CheckedName} {finding : Diagnostic} {about : String}

/-- Names that are checked later do not matter. -/
theorem Concerns.append_right (concerns : Concerns names finding about) (others : List CheckedName) :
    Concerns (names ++ others) finding about := by
  cases concerns with
  | invalid quotation _ worded => exact .invalid quotation _ worded
  | duplicate => exact .duplicate
  | invalidName => exact .invalidName
  | reservedWord first met =>
    exact .reservedWord (by rw [List.find?_append, first, Option.some_or]) met

/-- Names that have passed do not matter. -/
theorem Concerns.append_left (passed : ∀ checked ∈ others, checked.word? = none)
    (concerns : Concerns names finding about) : Concerns (others ++ names) finding about := by
  cases concerns with
  | invalid quotation _ worded => exact .invalid quotation _ worded
  | duplicate => exact .duplicate
  | invalidName => exact .invalidName
  | reservedWord first met =>
    have unmet : others.find? (·.word?.isSome) = none :=
      List.find?_eq_none.mpr fun checked member => by simp [passed checked member]
    exact .reservedWord (by rw [List.find?_append, unmet, Option.none_or, first]) met

end Manifest

/-- The labels hold the text, from the anchor on, and of two the first comes before the second. -/
structure Diagnostic.LabelledAt (finding : Diagnostic) (source : String) (anchor : Nat)
    (text : String) : Prop where
  covers : ∀ label ∈ finding.labels, label.2.Covers source text
  anchored : ∀ label ∈ finding.labels, anchor ≤ label.2.offset
  ordered : (finding.labels.map (·.2)).Pairwise Span.Precedes

theorem Diagnostic.LabelledAt.mono {finding : Diagnostic} {source text : String}
    {anchor earlier : Nat} (labelled : finding.LabelledAt source anchor text)
    (back : earlier ≤ anchor) : finding.LabelledAt source earlier text :=
  ⟨labelled.covers, fun label member => back.trans (labelled.anchored label member),
    labelled.ordered⟩

namespace Locator

variable {locator : Locator} {name : String}

theorem labelledAt_span? {finding : Diagnostic} {said : String}
    (labelled : finding.labels = (locator.span? name).toList.map (said, ·)) :
    finding.LabelledAt locator.source locator.anchor name := by
  cases found : locator.span? name with
  | none =>
    rw [found] at labelled
    exact ⟨by simp [labelled], by simp [labelled], by simp [labelled]⟩
  | some span =>
    rw [found] at labelled
    have member := mem_spans_of_span? found
    exact ⟨by simpa [labelled] using spans_covers member,
      by simpa [labelled] using anchor_le_of_mem_spans member, by simp [labelled]⟩

/-- A repeated name is labelled where it is first found and where it is found again. -/
theorem labelledAt_duplicate (locator : Locator) (kind name : String) {occurrence : Nat}
    (repeated : 2 ≤ occurrence) :
    (locator.duplicate kind name occurrence).LabelledAt locator.source locator.anchor name := by
  have placed : ∀ label ∈ (locator.duplicate kind name occurrence).labels,
      label.2 ∈ locator.spans name := by
    intro label member
    rcases List.mem_append.mp member with member | member
    · obtain ⟨span, found, rfl⟩ := List.mem_map.mp member
      exact mem_spans_of_span? (Option.mem_toList.mp found)
    · obtain ⟨span, found, rfl⟩ := List.mem_map.mp member
      exact List.mem_of_getElem? (Option.mem_toList.mp found)
  refine ⟨fun label member => spans_covers (placed label member),
    fun label member => anchor_le_of_mem_spans (placed label member), ?_⟩
  rw [duplicate, Diagnostic.labels]
  cases first : locator.span? name with
  | none => cases (locator.spans name)[occurrence - 1]? <;> simp
  | some one =>
    cases second : (locator.spans name)[occurrence - 1]? with
    | none => simp
    | some other =>
      rw [span?, List.head?_eq_getElem?] at first
      simpa using precedes_of_lt (by omega) first second

/-- A check of these names among others: none of them has a reserved word if it passes, and what it
finds is about a string of the manifest, and labelled where that stands, from the anchor of the locator
on. -/
structure Pinpoints (names : Locator → List CheckedName) (check : Locator → Except Diagnostic Unit) :
    Prop where
  passes : ∀ locator, check locator = .ok () → ∀ checked ∈ names locator, checked.word? = none
  finds : ∀ locator finding, check locator = .error finding →
    ∃ about, Manifest.Concerns (names locator) finding about ∧
      finding.LabelledAt locator.source locator.anchor about

/-- A check of no such name. -/
abbrev PinpointsOther (check : Locator → Except Diagnostic Unit) : Prop :=
  Pinpoints (fun _ => []) check

namespace Pinpoints

variable {names others : Locator → List CheckedName} {check next : Locator → Except Diagnostic Unit}

theorem ok : PinpointsOther fun _ => .ok () where
  passes _ _ _ member := nomatch member
  finds _ _ refused := nomatch refused

theorem error {finding : Locator → Diagnostic} {about : String}
    (concerns : ∀ locator, Manifest.Concerns (names locator) (finding locator) about)
    (labelled : ∀ locator, (finding locator).LabelledAt locator.source locator.anchor about) :
    Pinpoints names fun locator => .error (finding locator) where
  passes _ passed := nomatch passed
  finds locator found refused := by
    obtain rfl := Except.error.inj refused
    exact ⟨about, concerns locator, labelled locator⟩

theorem ite {condition : Prop} {_ : Decidable condition}
    (yes : condition → Pinpoints names check) (no : ¬ condition → Pinpoints names next) :
    Pinpoints names fun locator => if condition then check locator else next locator := by
  by_cases holds : condition
  · simpa only [if_pos holds] using yes holds
  · simpa only [if_neg holds] using no holds

/-- A condition that holds, or else what is found. -/
theorem okOr {condition : Prop} {_ : Decidable condition} (no : PinpointsOther next) :
    PinpointsOther fun locator => if condition then .ok () else next locator :=
  ite (fun _ => ok) fun _ => no

theorem andThen (first : Pinpoints names check) (later : Pinpoints others next) :
    Pinpoints (fun locator => names locator ++ others locator) fun locator =>
      check locator >>= fun _ => next locator where
  passes locator passed checked member := by
    obtain ⟨_, checks, nexts⟩ := bind_eq_ok.mp passed
    rcases List.mem_append.mp member with own | other
    · exact first.passes locator checks checked own
    · exact later.passes locator nexts checked other
  finds locator finding refused := by
    rcases bind_eq_error.mp refused with found | ⟨_, checks, found⟩
    · obtain ⟨about, concerns, labelled⟩ := first.finds locator finding found
      exact ⟨about, concerns.append_right _, labelled⟩
    · obtain ⟨about, concerns, labelled⟩ := later.finds locator finding found
      exact ⟨about, concerns.append_left (first.passes locator checks), labelled⟩

/-- A locator may move forward in its source before it checks. -/
theorem moved (place : Locator → Locator)
    (kept : ∀ locator, (place locator).source = locator.source)
    (forward : ∀ locator, locator.anchor ≤ (place locator).anchor)
    (pinpoints : Pinpoints names check) :
    Pinpoints (fun locator => names (place locator)) fun locator => check (place locator) where
  passes locator := pinpoints.passes (place locator)
  finds locator finding refused := by
    obtain ⟨about, concerns, labelled⟩ := pinpoints.finds (place locator) finding refused
    rw [kept] at labelled
    exact ⟨about, concerns, labelled.mono (forward locator)⟩

section Each

variable {α : Type} {check : Locator → List α → α → Except Diagnostic Unit}

theorem each {names : Locator → List α → α → List CheckedName}
    (step : ∀ before a, Pinpoints (names · before a) (check · before a)) (before list : List α) :
    Pinpoints (fun locator => Manifest.namesOfEach (names locator) before list) fun locator =>
      Manifest.checkEach (check locator) before list := by
  induction list generalizing before with
  | nil => exact ok
  | cons a rest ih => exact (step before a).andThen (ih (a :: before))

/-- One name is checked for each element. -/
theorem eachOne {named : Locator → α → CheckedName}
    (step : ∀ before a, Pinpoints (fun locator => [named locator a]) (check · before a))
    (before list : List α) :
    Pinpoints (fun locator => list.map (named locator)) fun locator =>
      Manifest.checkEach (check locator) before list := by
  have checked := @each α check (fun locator _ a => [named locator a]) step before list
  simpa only [Manifest.namesOfEach_eq_flatMap, ← List.map_eq_flatMap] using checked

/-- No such name is checked for any element. -/
theorem eachOther (step : ∀ before a, PinpointsOther (check · before a)) (before list : List α) :
    PinpointsOther fun locator => Manifest.checkEach (check locator) before list := by
  have checked := @each α check (fun _ _ _ => []) step before list
  have silent : list.flatMap (fun _ => ([] : List CheckedName)) = [] := by simp
  simpa only [Manifest.namesOfEach_eq_flatMap, silent] using checked

end Each

theorem invalid (quotation : String × String) (name : String)
    (worded : quotation ∈ Manifest.quotations) :
    PinpointsOther fun locator =>
      .error (locator.invalid name (quotation.1 ++ name ++ quotation.2)) :=
  error (fun _ => .invalid quotation name worded) fun _ => labelledAt_span? rfl

theorem invalidName (name kind reason : String) :
    Pinpoints names fun locator => .error (locator.invalidName name kind reason) :=
  error (fun _ => .invalidName) fun _ => labelledAt_span? rfl

/-- The only name of a check has the reserved word. -/
theorem reservedWord {word name : String} (kind : String)
    (met : (Text.segments '.' name).find? Java.isReserved = some word) :
    Pinpoints (fun locator => [⟨locator, kind, name⟩]) fun locator =>
      .error (locator.reservedWord word name kind) := by
  refine error (fun locator => ?_) fun _ => labelledAt_span? rfl
  have own : CheckedName.word? ⟨locator, kind, name⟩ = some word := met
  exact .reservedWord (by rw [List.find?_cons_of_pos (by simp [own])]) own

/-- The only name of a check has no reserved word. -/
theorem okOfUnmet {name : String} (kind : String)
    (unmet : (Text.segments '.' name).find? Java.isReserved = none) :
    Pinpoints (fun locator => [⟨locator, kind, name⟩]) fun _ => .ok () where
  passes _ _ checked member := by
    obtain rfl := List.mem_singleton.mp member
    exact unmet
  finds _ _ refused := nomatch refused

theorem duplicate (kind name : String) {occurrence : Nat} (repeated : 2 ≤ occurrence) :
    PinpointsOther fun locator => .error (locator.duplicate kind name occurrence) :=
  error (fun _ => .duplicate) fun locator => locator.labelledAt_duplicate kind name repeated

end Pinpoints

open Pinpoints

/-- A name without points is its only segment. -/
theorem find?_isReserved_of_not_mem {name : String} (undotted : '.' ∉ name.toList) :
    (Text.segments '.' name).find? Java.isReserved =
      if Java.isReserved name then some name else none := by
  rw [Text.segments_of_not_mem undotted, List.find?_singleton]

theorem checkName_pinpoints (name kind : String) :
    Pinpoints (fun locator => [⟨locator, kind, name⟩]) fun locator =>
      locator.checkName name kind := by
  refine Pinpoints.ite (fun reserved => ?_) fun unreserved => ?_
  · have undotted : ∀ word ∈ Java.reservedWords, '.' ∉ word.toList := by decide
    refine Pinpoints.reservedWord kind ?_
    rw [find?_isReserved_of_not_mem (undotted name (List.contains_iff_mem.mp reserved)),
      if_pos reserved]
  · cases fault : identifierFault? name with
    | some reason => exact Pinpoints.invalidName name kind reason
    | none =>
      have undotted := Java.not_mem_of_isIdentifier (identifierFault?_eq_none.mp fault)
        (c := '.') (by decide)
      exact Pinpoints.okOfUnmet kind (by rw [find?_isReserved_of_not_mem undotted, if_neg unreserved])

theorem checkQualifiedName_pinpoints (name kind : String) :
    Pinpoints (fun locator => [⟨locator, kind, name⟩]) fun locator =>
      locator.checkQualifiedName name kind := by
  unfold checkQualifiedName
  cases qualifiedNameFault? name with
  | some reason => exact Pinpoints.invalidName name kind reason
  | none =>
    cases met : (Text.segments '.' name).find? Java.isReserved with
    | some word => exact Pinpoints.reservedWord kind met
    | none => exact Pinpoints.okOfUnmet kind met

theorem checkType_pinpoints (type kind : String) :
    PinpointsOther fun locator => locator.checkType type kind :=
  Pinpoints.okOr (Pinpoints.invalidName type kind _)

/-- Anchoring at a place of a name only moves forward. -/
theorem anchor_le_anchoredAtSpan {place : Option Span}
    (found : ∀ span, place = some span → span ∈ locator.spans name) :
    locator.anchor ≤ (locator.anchoredAtSpan place).anchor := by
  cases place with
  | none => exact Nat.le_refl _
  | some span => exact anchor_le_of_mem_spans (found span rfl)

end Locator

namespace Manifest

open Locator Locator.Pinpoints

theorem checkOptionalName_pinpoints (name : Option String) (kind : String) :
    Pinpoints (optionalName · name kind) fun locator => checkOptionalName locator name kind := by
  cases name with
  | none => exact ok
  | some given => exact checkQualifiedName_pinpoints given kind

theorem checkDatabase_pinpoints (options : DatabaseOptions) :
    Pinpoints (databaseNames · options) fun locator => checkDatabase locator options :=
  (Pinpoints.okOr (Pinpoints.invalid
      ("dialect '", "' may only contain letters, digits and '_'") _ (by decide))).andThen
    ((checkOptionalName_pinpoints _ _).andThen (checkOptionalName_pinpoints _ _))

theorem checkConverter_pinpoints (name : String) (decl : ConverterDeclaration) :
    Pinpoints (fun locator => [⟨locator, "converter", name⟩]) fun locator =>
      checkConverter locator name decl := by
  have inner (type kind : String) : PinpointsOther fun locator =>
      ((locator.inside name).anchoredAt name).checkType type kind :=
    (checkType_pinpoints type kind).moved (fun locator => (locator.inside name).anchoredAt name)
      (fun _ => rfl) fun _ => anchor_le_anchoredAtSpan fun _ => mem_spans_of_span?
  exact (checkQualifiedName_pinpoints _ _).andThen
    ((inner decl.fromType _).andThen (inner decl.toType _))

theorem checkFresh_pinpoints (kind name : String) (before : List String) :
    PinpointsOther fun locator => checkFresh locator kind name before := by
  refine Pinpoints.ite (fun known => Pinpoints.duplicate kind name ?_) fun _ => ok
  exact Nat.succ_le_succ (List.count_pos_iff.mpr (List.contains_iff_mem.mp known))

theorem checkClassName_pinpoints (before : List ClassDeclaration) (decl : ClassDeclaration) :
    Pinpoints (fun locator => [⟨locator, "class", decl.name⟩]) fun locator =>
      checkClassName locator before decl :=
  (checkQualifiedName_pinpoints _ _).andThen (checkFresh_pinpoints _ _ _)

variable (manifest : Manifest)

theorem checkConverterReference_pinpoints (options : ColumnOptions) :
    PinpointsOther fun locator => checkConverterReference manifest locator options := by
  unfold checkConverterReference
  cases options.converter with
  | none => exact ok
  | some name =>
    exact Pinpoints.okOr
      (Pinpoints.invalid ("converter '", "' is not declared in [converters]") name (by decide))

theorem checkOverridePath_pinpoints (path : String) :
    PinpointsOther fun locator => checkOverridePath locator path :=
  Pinpoints.okOr
    (Pinpoints.invalid ("override path '", "' must be dot-separated field names") path (by decide))

theorem checkOverrides_pinpoints (overrides : Overrides) :
    PinpointsOther fun locator => checkOverrides manifest locator overrides := by
  refine eachOther (fun _ entry => ?_) [] overrides
  exact (checkOverridePath_pinpoints entry.1).andThen
    (checkConverterReference_pinpoints manifest entry.2)

theorem checkMapping_pinpoints (field : FieldDeclaration) :
    PinpointsOther fun locator => checkMapping manifest locator field := by
  refine (checkConverterReference_pinpoints manifest _).andThen ?_
  cases field.embedded with
  | none => exact ok
  | some inner =>
    have columns : PinpointsOther fun locator => .error (locator.invalid field.name
        ("embedded field '" ++ field.name
          ++ "' cannot declare column metadata; use overrides instead")) :=
      Pinpoints.invalid ("embedded field '",
        "' cannot declare column metadata; use overrides instead") field.name (by decide)
    have undeclared : PinpointsOther fun locator => .error (locator.invalid field.type
        ("embedded type '" ++ field.type ++ "' is not declared in [[classes]]")) :=
      Pinpoints.invalid ("embedded type '", "' is not declared in [[classes]]") field.type (by decide)
    exact Pinpoints.ite (fun _ => columns) fun _ =>
      Pinpoints.ite (fun _ => undeclared) fun _ => checkOverrides_pinpoints manifest inner

theorem checkField_pinpoints (className : String) (before : List FieldDeclaration)
    (field : FieldDeclaration) :
    Pinpoints (fun locator => [⟨locator, "field", field.name⟩]) fun locator =>
      checkField manifest locator className before field := by
  refine (checkName_pinpoints _ _).andThen
    ((checkType_pinpoints field.type _).andThen ((checkFresh_pinpoints _ _ _).andThen ?_))
  exact (checkMapping_pinpoints manifest field).moved (·.inside field.name) (fun _ => rfl) fun _ =>
    Nat.le_refl _

theorem checkMembers_pinpoints (decl : ClassDeclaration) :
    Pinpoints (memberNames · decl) fun locator => checkMembers locator decl := by
  have constants : Pinpoints (fun locator => decl.constants.map (⟨locator, "enum constant", ·⟩))
      fun locator => checkEach (fun _ constant => locator.checkName constant "enum constant") []
        decl.constants :=
    eachOne (fun _ constant => checkName_pinpoints constant _) [] decl.constants
  have fields : PinpointsOther fun locator =>
      .error (locator.invalid decl.name ("enum '" ++ decl.name ++ "' cannot declare fields")) :=
    Pinpoints.invalid ("enum '", "' cannot declare fields") decl.name (by decide)
  have noEnum : PinpointsOther fun locator => .error (locator.invalid decl.name
      ("only enums declare constants, '" ++ decl.name ++ "' is not an enum")) :=
    Pinpoints.invalid ("only enums declare constants, '", "' is not an enum") decl.name (by decide)
  refine Pinpoints.ite (fun enum => ?_) fun other => ?_
  · simpa only [memberNames, if_pos enum, List.append_nil] using
      constants.andThen (Pinpoints.okOr fields)
  · simpa only [memberNames, if_neg other] using Pinpoints.okOr noEnum

theorem checkClass_pinpoints (decl : ClassDeclaration) :
    Pinpoints (classNames · decl) fun locator => checkClass manifest locator decl := by
  have fields := eachOne (checkField_pinpoints manifest decl.name) [] decl.fields
  have checked : Pinpoints _ fun locator => checkClass manifest locator decl :=
    (checkOptionalName_pinpoints decl.superclass "superclass").andThen
      ((checkMembers_pinpoints decl).andThen
        (fields.andThen (checkOverrides_pinpoints manifest decl.overrides)))
  simpa only [classNames, List.append_nil, List.append_assoc] using checked

/-- What is found in a class is labelled from the place on that the class is looked for from. -/
theorem checkDeclaration_labelledAt {before : List ClassDeclaration} {decl : ClassDeclaration}
    {locator : Locator} {finding : Diagnostic}
    (refused : checkDeclaration manifest locator before decl = .error finding) :
    ∃ about, Concerns (classNames (locator.ofDeclaration before decl) decl) finding about ∧
      finding.LabelledAt locator.source (locator.ofDeclaration before decl).anchor about :=
  (checkClass_pinpoints manifest decl).finds _ finding refused

theorem checkDeclaration_pinpoints (before : List ClassDeclaration) (decl : ClassDeclaration) :
    Pinpoints (fun locator => classNames (locator.ofDeclaration before decl) decl) fun locator =>
      checkDeclaration manifest locator before decl :=
  (checkClass_pinpoints manifest decl).moved (·.ofDeclaration before decl) (fun _ => rfl) fun _ =>
    anchor_le_anchoredAtSpan fun _ => List.mem_of_getElem?

theorem validate_labelledAt {source file : String} {finding : Diagnostic}
    (refused : manifest.validate source file = .error finding) :
    ∃ about, Concerns (manifest.checkedNames { source := source, file := file }) finding about ∧
      finding.LabelledAt source 0 about := by
  have converters := eachOne (fun _ (entry : String × ConverterDeclaration) =>
    checkConverter_pinpoints entry.1 entry.2) [] manifest.converters
  have names := eachOne checkClassName_pinpoints [] manifest.classes
  have classes := each (checkDeclaration_pinpoints manifest) [] manifest.classes
  have checked := (checkDatabase_pinpoints manifest.database).andThen
    (converters.andThen (names.andThen classes))
  rw [checkedNames, List.append_assoc, List.append_assoc]
  exact checked.finds { source := source, file := file } finding refused

/-- Each label of a finding holds just the string that the finding is about. The places of a name follow
each other from the anchor on, so a repeated name is labelled in order, and nothing found in a class is
labelled before the place that the class is looked for from. -/
theorem labels_at_subject (manifest : Manifest) (source file : String) :
    (∀ finding, manifest.validate source file = .error finding →
      ∃ about, Concerns (manifest.checkedNames { source := source, file := file }) finding about ∧
        (∀ label ∈ finding.labels, label.2.Covers source about) ∧
        ∀ file first second kind name,
          finding = .duplicate file (some first) (some second) kind name → first.Precedes second) ∧
    (∀ (locator : Locator) (name : String), (locator.spans name).Pairwise Span.Precedes ∧
      ∀ span ∈ locator.spans name,
        span.Covers locator.source name ∧ locator.anchor ≤ span.offset) ∧
    ∀ (locator : Locator) before decl finding place,
      checkDeclaration manifest locator before decl = .error finding →
      (locator.spans decl.name)[(before.map (·.name)).count decl.name]? = some place →
      ∀ label ∈ finding.labels, place.offset ≤ label.2.offset := by
  refine ⟨fun finding refused => ?_, fun locator name => ⟨locator.spans_pairwise name,
    fun span member => ⟨spans_covers member, anchor_le_of_mem_spans member⟩⟩,
    fun locator before decl finding place refused found => ?_⟩
  · obtain ⟨about, concerns, labelled⟩ := validate_labelledAt manifest refused
    refine ⟨about, concerns, labelled.covers, ?_⟩
    rintro file first second kind name rfl
    simpa [Diagnostic.labels] using labelled.ordered
  · obtain ⟨about, -, labelled⟩ := checkDeclaration_labelledAt manifest refused
    rw [Locator.ofDeclaration, found] at labelled
    exact labelled.anchored

/-- A field of the same name stands before the class. -/
theorem repeated_field_labelled :
    let id : FieldDeclaration := { name := "id", type := "int" }
    let size : ClassDeclaration := { name := "Größe", fields := [id, id] }
    let manifest : Manifest := { classes := [size] }
    let source := "name = \"id\" name = \"Größe\" name = \"id\" name = \"id\""
    let finding : Diagnostic :=
      .duplicate "sizes.toml" (some ⟨37, 2⟩) (some ⟨49, 2⟩) "field in 'Größe'" "id"
    manifest.validate source "sizes.toml" = .error finding ∧
      Concerns (manifest.checkedNames { source := source, file := "sizes.toml" }) finding "id" ∧
      (⟨37, 2⟩ : Span).Covers source "id" ∧ (⟨49, 2⟩ : Span).Covers source "id" ∧
      (⟨37, 2⟩ : Span).Precedes ⟨49, 2⟩ ∧ (⟨20, 7⟩ : Span).offset ≤ (⟨37, 2⟩ : Span).offset := by
  intro id size manifest source finding
  obtain ⟨valid, -, behind⟩ := labels_at_subject manifest source "sizes.toml"
  have refused : manifest.validate source "sizes.toml" = .error finding := by decide +kernel
  obtain ⟨about, concerns, covers, ordered⟩ := valid finding refused
  obtain rfl : about = "id" := by
    unfold finding at concerns
    cases concerns
    rfl
  have here : checkDeclaration manifest { source := source, file := "sizes.toml" } [] size =
      .error finding := by decide +kernel
  refine ⟨refused, concerns, covers ("first declared here", ⟨37, 2⟩) ?_,
    covers ("declared again here", ⟨49, 2⟩) ?_, ordered _ _ _ _ _ rfl,
    behind _ _ size finding ⟨20, 7⟩ here ?_
      ("first declared here", ⟨37, 2⟩) ?_⟩
  · decide
  · decide
  · decide +kernel
  · decide

end Manifest

end EntityMapper
