import EntityMapper.Manifest.Document
import Mathlib.Data.List.Induction
import Mathlib.Data.List.Nodup

/-!
# What a registry holds

However classes and converters have been registered, a registry holds for each name what came last
under it, at the place of what came first (`classes_ofRegistrations`, `converters_ofRegistrations`). A
manifest that lists just that answers as the registry does (`answersAs_ofRegistrations`): the registry
looks a class up by the name it was registered under, the manifest goes through its classes.
-/
namespace EntityMapper

/-- Of the items with one key the last, where the first of them stands. -/
def lastOfEach {α : Type} (key : α → String) (items : List α) : List α :=
  (items.map key).eraseDups.filterMap fun name => items.reverse.find? (key · == name)

section LastOfEach

variable {α β : Type} (key : α → String) (items : List α)

/-- What is found under a name where the items found under several names are listed. -/
theorem find?_filterMap_find? (names : List String) (asked : String) :
    (names.filterMap fun name => items.find? (key · == name)).find? (key · == asked) =
      if asked ∈ names then items.find? (key · == asked) else none := by
  induction names with
  | nil => rfl
  | cons name rest ih =>
    cases found : items.find? (key · == name) with
    | none =>
      simp only [List.filterMap_cons, found, ih]
      by_cases same : asked = name
      · subst same
        simp [found]
      · simp [same]
    | some item =>
      have keyed : key item = name :=
        beq_iff_eq.mp (List.find?_some (p := fun item => key item == name) found)
      simp only [List.filterMap_cons, found, List.find?_cons, ih, keyed]
      by_cases same : name = asked
      · subst same
        simp [found]
      · simp [beq_false_of_ne same, Ne.symm same]

theorem find?_lastOfEach (name : String) :
    (lastOfEach key items).find? (key · == name) = items.reverse.find? (key · == name) := by
  rw [lastOfEach, find?_filterMap_find?]
  split
  · rfl
  · rename_i unused
    refine (List.find?_eq_none.mpr fun item member => ?_).symm
    have differs : key item ≠ name := fun same =>
      unused (List.mem_eraseDups.mpr (same ▸ List.mem_map_of_mem (List.mem_reverse.mp member)))
    simpa using differs

theorem map_key_lastOfEach : (lastOfEach key items).map key = (items.map key).eraseDups := by
  have kept : ∀ name ∈ (items.map key).eraseDups,
      (items.reverse.find? (key · == name)).map key = some name := by
    intro name member
    obtain ⟨item, inItems, rfl⟩ := List.mem_map.mp (List.mem_eraseDups.mp member)
    have held : (items.reverse.find? (key · == key item)).isSome = true :=
      List.find?_isSome.mpr ⟨item, List.mem_reverse.mpr inItems, beq_self_eq_true _⟩
    obtain ⟨last, found⟩ := Option.isSome_iff_exists.mp held
    have keyed := List.find?_some (p := fun other => key other == key item) found
    rw [found, Option.map_some, beq_iff_eq.mp keyed]
  rw [lastOfEach, List.map_filterMap, List.filterMap_congr kept, List.filterMap_some]

theorem lastOfEach_map (f : β → α) (others : List β) :
    lastOfEach key (others.map f) = (lastOfEach (fun other => key (f other)) others).map f := by
  simp only [lastOfEach, List.map_map, List.map_filterMap, ← List.map_reverse, List.find?_map]
  rfl

end LastOfEach

theorem nodup_eraseDups (names : List String) : names.eraseDups.Nodup := by
  induction names using List.reverseRecOn with
  | nil => exact List.nodup_nil
  | append_singleton names name ih =>
    rw [List.eraseDups_append]
    by_cases known : name ∈ names
    · simpa [List.removeAll, known] using ih
    · have apart : ∀ other ∈ names, other ≠ name := fun other member same => known (same ▸ member)
      have once : [name].eraseDups.Nodup := List.nodup_singleton name
      simpa [List.removeAll, known, List.nodup_append] using ⟨ih, once, apart⟩

/-- Of the names that are left, each was met before all later ones. -/
theorem pairwise_eraseDups (names : List String) :
    names.eraseDups.Pairwise fun first second =>
      ∃ before after, names = before ++ after ∧ first ∈ before ∧ second ∉ before := by
  induction names using List.reverseRecOn with
  | nil => exact .nil
  | append_singleton names name ih =>
    rw [List.eraseDups_append]
    refine List.pairwise_append.mpr ⟨ih.imp ?_, ?_, fun first known second last => ?_⟩
    · rintro first second ⟨before, after, rfl, known, fresh⟩
      exact ⟨before, after ++ [name], List.append_assoc _ _ _, known, fresh⟩
    · by_cases known : name ∈ names
      · simp [List.removeAll, known]
      · have alone : [name].eraseDups = [name] := rfl
        simp [List.removeAll, known, alone]
    · obtain ⟨own, fresh⟩ : second = name ∧ second ∉ names := by
        simpa [List.removeAll] using List.mem_eraseDups.mp last
      exact ⟨names, [name], rfl, List.mem_eraseDups.mp known, fresh⟩

namespace Entries

variable {α : Type}

theorem get?_eq_find? (entries : Entries α) (name : String) :
    entries.get? name = (entries.find? (·.1 == name)).map (·.2) := by
  induction entries with
  | nil => rfl
  | cons entry rest ih =>
    obtain ⟨other, value⟩ := entry
    rw [get?_cons, List.find?_cons, ih]
    by_cases same : other = name
    · simp [same]
    · simp [same, beq_false_of_ne same]

/-- Entries under names of their own are looked up as the values are searched. -/
theorem get?_map_key (key : α → String) (items : List α) (name : String) :
    get? (items.map fun item => (key item, item)) name = items.find? (key · == name) := by
  rw [get?_eq_find?, List.find?_map, Option.map_map]
  exact Option.map_id'

/-- Entries that name each name once are known by their names and values. -/
theorem ext_get? {entries others : Entries α} (named : entries.names = others.names)
    (once : entries.names.Nodup) (held : ∀ name, entries.get? name = others.get? name) :
    entries = others := by
  induction entries generalizing others with
  | nil => exact (List.map_eq_nil_iff.mp named.symm).symm
  | cons entry rest ih =>
    obtain ⟨name, value⟩ := entry
    cases others with
    | nil => cases named
    | cons other restAgain =>
      obtain ⟨again, replaced⟩ := other
      obtain ⟨rfl, namedRest⟩ := List.cons.inj named
      obtain ⟨fresh, onceRest⟩ := List.nodup_cons.mp once
      have first := held name
      simp only [get?_cons, if_true, Option.some.injEq] at first
      rw [first, ih namedRest onceRest fun asked => ?_]
      have later := held asked
      rw [get?_cons, get?_cons] at later
      by_cases same : name = asked
      · subst same
        have freshAgain : name ∉ names restAgain := fun member => fresh (namedRest.symm ▸ member)
        rw [get?_eq_none.mpr fresh, get?_eq_none.mpr freshAgain]
      · rwa [if_neg same, if_neg same] at later

theorem names_lastOfEach (entries : Entries α) :
    names (lastOfEach (·.1) entries) = entries.names.eraseDups :=
  map_key_lastOfEach _ entries

theorem get?_lastOfEach (entries : Entries α) (name : String) :
    get? (lastOfEach (·.1) entries) name = get? entries.reverse name := by
  rw [get?_eq_find?, find?_lastOfEach, ← get?_eq_find?]

/-- One more entry replaces what is kept of its name, or is kept at the end. -/
theorem lastOfEach_concat (entries : Entries α) (name : String) (value : α) :
    lastOfEach (·.1) (entries ++ [(name, value)]) =
      Entries.insert name value (lastOfEach (·.1) entries) := by
  apply ext_get?
  · have alone : [name].eraseDups = [name] := rfl
    rw [names_insert, names_lastOfEach, names_lastOfEach, names, List.map_append,
      List.eraseDups_append]
    by_cases known : name ∈ entries.map (·.1) <;>
      simp [List.removeAll, known, names, alone]
  · rw [names_lastOfEach]
    exact nodup_eraseDups _
  · intro asked
    rw [get?_insert, get?_lastOfEach, get?_lastOfEach, List.reverse_append]
    exact get?_cons name value entries.reverse asked

end Entries

/-- A call that registers something. -/
inductive Registration where
  | ofClass (decl : ClassDeclaration)
  | ofConverter (name : String) (decl : ConverterDeclaration)
  deriving DecidableEq, Repr

namespace Registration

def class? : Registration → Option ClassDeclaration
  | .ofClass decl => some decl
  | .ofConverter _ _ => none

def converter? : Registration → Option (String × ConverterDeclaration)
  | .ofClass _ => none
  | .ofConverter name decl => some (name, decl)

end Registration

/-- What is left of the calls: of each name the last class and the last converter registered under it,
where the first was. -/
def Manifest.ofRegistrations (calls : List Registration) : Manifest where
  classes := lastOfEach (·.name) (calls.filterMap (·.class?))
  converters := lastOfEach (·.1) (calls.filterMap (·.converter?))

namespace ClassRegistry

def perform (registry : ClassRegistry) : Registration → ClassRegistry
  | .ofClass decl => registry.register decl
  | .ofConverter name decl => registry.registerConverter name decl

def ofRegistrations (calls : List Registration) : ClassRegistry :=
  calls.foldl perform {}

theorem ofRegistrations_concat (calls : List Registration) (call : Registration) :
    ofRegistrations (calls ++ [call]) = (ofRegistrations calls).perform call := by
  simp [ofRegistrations]

/-- A class is registered under its own name. -/
theorem classes_eq_lastOfEach (calls : List Registration) :
    (ofRegistrations calls).classes =
      lastOfEach (·.1) ((calls.filterMap (·.class?)).map fun decl => (decl.name, decl)) := by
  induction calls using List.reverseRecOn with
  | nil => rfl
  | append_singleton calls call ih =>
    rw [ofRegistrations_concat, List.filterMap_append, List.map_append]
    cases call with
    | ofClass decl => exact (congrArg _ ih).trans (Entries.lastOfEach_concat _ _ _).symm
    | ofConverter name decl => simpa [Registration.class?, perform, registerConverter] using ih

theorem classes_ofRegistrations (calls : List Registration) :
    (ofRegistrations calls).classes =
      (Manifest.ofRegistrations calls).classes.map fun decl => (decl.name, decl) :=
  (classes_eq_lastOfEach calls).trans
    (lastOfEach_map (fun entry : String × ClassDeclaration => entry.1) _ _)

theorem converters_ofRegistrations (calls : List Registration) :
    (ofRegistrations calls).converters = (Manifest.ofRegistrations calls).converters := by
  rw [Manifest.ofRegistrations]
  induction calls using List.reverseRecOn with
  | nil => rfl
  | append_singleton calls call ih =>
    rw [ofRegistrations_concat, List.filterMap_append]
    cases call with
    | ofClass decl => simpa [Registration.converter?, perform, register] using ih
    | ofConverter name decl => exact (congrArg _ ih).trans (Entries.lastOfEach_concat _ _ _).symm

end ClassRegistry

/-- The metadata gives to every question the answer of the registry. -/
structure Metadata.AnswersAs (metadata : Metadata) (registry : ClassRegistry) : Prop where
  class? : ∀ name, metadata.class? name = registry.class? name
  classes : metadata.classes = registry.classes.values
  converter? : ∀ name, metadata.converter? name = registry.converter? name
  isEnum : ∀ type, metadata.isEnum type = registry.isEnum type

/-- Going through the classes finds what the registry has under a name. -/
theorem answersAs_ofRegistrations (calls : List Registration) :
    (Manifest.ofRegistrations calls).metadata.AnswersAs (ClassRegistry.ofRegistrations calls) := by
  have found (name : String) : (Manifest.ofRegistrations calls).metadata.class? name =
      (ClassRegistry.ofRegistrations calls).class? name := by
    rw [ClassRegistry.class?, ClassRegistry.classes_ofRegistrations, Entries.get?_map_key]
    rfl
  refine ⟨found, ?_, fun name => ?_, fun type => ?_⟩
  · rw [ClassRegistry.classes_ofRegistrations, Entries.values, List.map_map]
    exact (List.map_id' _).symm
  · rw [ClassRegistry.converter?, ClassRegistry.converters_ofRegistrations]
    rfl
  · rw [Metadata.isEnum, ClassRegistry.isEnum, found]

theorem metadata_ofRegistrations (calls : List Registration) :
    (ClassRegistry.ofRegistrations calls).metadata = (Manifest.ofRegistrations calls).metadata := by
  have listed := (answersAs_ofRegistrations calls).classes
  rw [ClassRegistry.metadata, ← listed, ClassRegistry.converters_ofRegistrations]
  rfl

end EntityMapper
