import EntityMapper.Proofs.Metadata.Registration
import EntityMapper.Proofs.Text.Respelling
import EntityMapper.TypeMapping.Router
import Mathlib.Data.List.Forall2

/-!
# Registrations of a router

A router stands where the sequence of its registrations has brought it. A query finds what was
registered last under any spelling of its name, and each name is listed once, where it was first
registered and as it was last spelled (`registerAll_lists`). Nothing else than the name's own
registrations bears on it, and what a lookup fails with has the words of the query
(`lookups_of_registrations`).
-/
namespace EntityMapper

namespace Text

/-- Two texts that differ in the case of ASCII letters at most. -/
def SameLetters (s t : String) : Prop :=
  List.Forall₂ (fun c d => c.toLower = d.toLower) s.toList t.toList

theorem toUpper_of_not_ascii {c : Char} (other : ¬ c.toNat < asciiLimit) : c.toUpper = c := by
  have capital : ¬ ('a'.val ≤ c.val ∧ c.val ≤ 'z'.val) := by
    rintro ⟨-, below⟩
    exact other (Nat.lt_of_le_of_lt below (by decide))
  exact dif_neg capital

theorem toUpper_toLower (c : Char) : c.toUpper.toLower = c.toLower := by
  by_cases ascii : c.toNat < asciiLimit
  · exact forall_ascii (p := fun c => c.toUpper.toLower = c.toLower) (by decide) c ascii
  · rw [toUpper_of_not_ascii ascii]

theorem toLower_toUpper (c : Char) : c.toLower.toUpper = c.toUpper := by
  by_cases ascii : c.toNat < asciiLimit
  · exact forall_ascii (p := fun c => c.toLower.toUpper = c.toUpper) (by decide) c ascii
  · rw [toLower_of_not_ascii ascii]

theorem toUpper_eq_iff {c d : Char} : c.toUpper = d.toUpper ↔ c.toLower = d.toLower :=
  ⟨fun same => by rw [← toUpper_toLower c, same, toUpper_toLower],
    fun same => by rw [← toLower_toUpper c, same, toLower_toUpper]⟩

/-- The keys of a router are equal for the spellings of one name, and for no other names. -/
theorem asciiUpper_eq_iff {s t : String} : asciiUpper s = asciiUpper t ↔ SameLetters s t := by
  rw [asciiUpper, asciiUpper, String.ofList_inj, SameLetters, ← List.forall₂_eq_eq_eq,
    List.forall₂_map_left_iff, List.forall₂_map_right_iff]
  simp only [toUpper_eq_iff]

end Text

open Text (SameLetters asciiUpper asciiUpper_eq_iff)

namespace DialectRouter

def registerAll (router : DialectRouter) (calls : List Dialect) : DialectRouter :=
  calls.foldl register router

/-- The router that registrations alone have made. -/
def ofDialects (calls : List Dialect) : DialectRouter :=
  (⟨[]⟩ : DialectRouter).registerAll calls

/-- The standard router is one of them, as the empty one is. -/
theorem standard_eq_ofDialects : standard = ofDialects [.standard, .postgres] :=
  rfl

/-- The dialect is the last one registered under a spelling of the name. -/
def LastUnder (calls : List Dialect) (name : String) (dialect : Dialect) : Prop :=
  ∃ earlier later, calls = earlier ++ dialect :: later ∧ SameLetters dialect.name name ∧
    ∀ other ∈ later, ¬ SameLetters other.name name

/-- The names list each dialect once, where it was first registered and as it was last spelled. -/
structure Lists (calls : List Dialect) (names : List String) : Prop where
  once : names.Pairwise (¬ SameLetters · ·)
  all : ∀ dialect ∈ calls, ∃ name ∈ names, SameLetters dialect.name name
  spelled : ∀ name ∈ names, ∃ dialect, LastUnder calls name dialect ∧ dialect.name = name
  ordered : names.Pairwise fun first second => ∃ earlier later, calls = earlier ++ later ∧
    (∃ dialect ∈ earlier, SameLetters dialect.name first) ∧
    ∀ dialect ∈ earlier, ¬ SameLetters dialect.name second

theorem registerAll_append (router : DialectRouter) (calls later : List Dialect) :
    router.registerAll (calls ++ later) = (router.registerAll calls).registerAll later :=
  List.foldl_append

/-- A table has of each name what was registered last, where the name was registered first. -/
theorem table_ofDialects (calls : List Dialect) :
    (ofDialects calls).table =
      (lastOfEach (asciiUpper ·.name) calls).map fun dialect => (asciiUpper dialect.name, dialect) := by
  rw [← lastOfEach_map (fun entry : String × Dialect => entry.1)]
  induction calls using List.reverseRecOn with
  | nil => rfl
  | append_singleton calls dialect ih =>
    rw [ofDialects, registerAll_append, List.map_append]
    exact (congrArg _ ih).trans (Entries.lastOfEach_concat _ _ _).symm

theorem dialect?_ofDialects (calls : List Dialect) (name : String) :
    (ofDialects calls).dialect? name =
      calls.reverse.find? (asciiUpper ·.name == asciiUpper name) := by
  rw [dialect?, table_ofDialects, Entries.get?_map_key, find?_lastOfEach]

theorem dialect?_eq_some {calls : List Dialect} {name : String} {dialect : Dialect} :
    (ofDialects calls).dialect? name = some dialect ↔ LastUnder calls name dialect := by
  rw [dialect?_ofDialects, List.find?_eq_some_iff_append, LastUnder]
  simp only [beq_iff_eq, asciiUpper_eq_iff, Bool.not_eq_true', beq_eq_false_iff_ne, ne_eq]
  constructor
  · rintro ⟨spelled, later, earlier, split, others⟩
    refine ⟨earlier.reverse, later.reverse, ?_, spelled, fun other member =>
      others other (List.mem_reverse.mp member)⟩
    have back := congrArg List.reverse split
    simpa using back
  · rintro ⟨earlier, later, rfl, spelled, others⟩
    exact ⟨spelled, later.reverse, earlier.reverse, by simp, fun other member =>
      others other (List.mem_reverse.mp member)⟩

theorem dialects_ofDialects (calls : List Dialect) :
    (ofDialects calls).dialects = (lastOfEach (asciiUpper ·.name) calls).map (·.name) := by
  rw [dialects, table_ofDialects, Entries.values, List.map_map, List.map_map]
  rfl

theorem lists_ofDialects (calls : List Dialect) : Lists calls (ofDialects calls).dialects := by
  rw [dialects_ofDialects]
  have keys : (lastOfEach (asciiUpper ·.name) calls).map (asciiUpper ·.name) =
      (calls.map (asciiUpper ·.name)).eraseDups := map_key_lastOfEach _ _
  refine ⟨?_, fun dialect member => ?_, fun name listed => ?_, ?_⟩
  · have distinct := nodup_eraseDups (calls.map (asciiUpper ·.name))
    rw [← keys] at distinct
    refine List.pairwise_map.mpr ((List.pairwise_map.mp distinct).imp fun apart same => ?_)
    exact apart (asciiUpper_eq_iff.mpr same)
  · have known : asciiUpper dialect.name ∈ (calls.map (asciiUpper ·.name)).eraseDups :=
      List.mem_eraseDups.mpr (List.mem_map_of_mem member)
    rw [← keys] at known
    obtain ⟨last, kept, same⟩ := List.mem_map.mp known
    exact ⟨last.name, List.mem_map_of_mem kept, asciiUpper_eq_iff.mp same.symm⟩
  · obtain ⟨dialect, kept, rfl⟩ := List.mem_map.mp listed
    obtain ⟨key, -, found⟩ := List.mem_filterMap.mp kept
    have keyed : asciiUpper dialect.name = key := by simpa using List.find?_some found
    refine ⟨dialect, dialect?_eq_some.mp ?_, rfl⟩
    rw [dialect?_ofDialects, keyed, found]
  · have ordered := pairwise_eraseDups (calls.map (asciiUpper ·.name))
    rw [← keys] at ordered
    refine List.pairwise_map.mpr ((List.pairwise_map.mp ordered).imp ?_)
    rintro first second ⟨before, after, split, met, fresh⟩
    obtain ⟨earlier, later, rfl, rfl, -⟩ := List.map_eq_append_iff.mp split
    obtain ⟨dialect, member, same⟩ := List.mem_map.mp met
    exact ⟨earlier, later, rfl, ⟨dialect, member, asciiUpper_eq_iff.mp same⟩,
      fun other listed spelled => fresh (List.mem_map.mpr
        ⟨other, listed, asciiUpper_eq_iff.mpr spelled⟩)⟩

theorem dialect?_register (router : DialectRouter) (dialect : Dialect) (name : String) :
    (router.register dialect).dialect? name =
      if asciiUpper dialect.name = asciiUpper name then some dialect else router.dialect? name :=
  Entries.get?_insert _ _ _ _

section Answers

variable {α : Type} (found : Option Dialect) (ask : Dialect → Option α) (missing : MappingError)

/-- The answer of the dialect that was found, or the error for want of a dialect or of its answer. -/
def answer : Except MappingError α :=
  match found.bind ask with
  | some value => .ok value
  | none => .error missing

variable {found ask missing}

theorem answer_eq_ok {value : α} :
    answer found ask missing = .ok value ↔ ∃ dialect, found = some dialect ∧ ask dialect = some value := by
  rw [← Option.bind_eq_some_iff, answer]
  cases found.bind ask <;> simp

theorem answer_eq_error {cause : MappingError} :
    answer found ask missing = .error cause ↔
      cause = missing ∧ ∀ dialect, found = some dialect → ask dialect = none := by
  rw [← Option.bind_eq_none_iff, answer]
  cases found.bind ask <;> simp [eq_comm]

end Answers

theorem sqlType_eq_answer (router : DialectRouter) (name : String) (type : FieldType) :
    router.sqlType name type =
      answer (router.dialect? name) (·.sqlType? type) (.typeNotFound name type.name) := by
  rw [sqlType_eq, answer]
  cases (router.dialect? name).bind (·.sqlType? type) <;> rfl

theorem fieldType_eq_answer (router : DialectRouter) (name literal : String) :
    router.fieldType name literal =
      answer (router.dialect? name) (·.fieldType? literal) (.typeNotFound name literal) := by
  rw [fieldType_eq, answer]
  cases (router.dialect? name).bind (·.fieldType? literal) <;> rfl

/-- A router is a map of names whatever their case: what was registered last under a name answers for
all its spellings, and what a lookup fails with has the words of the query. -/
theorem lookups_of_registrations (known calls : List Dialect) :
    let router := (ofDialects known).registerAll calls
    let history := known ++ calls
    (∀ name dialect, router.dialect? name = some dialect ↔ LastUnder history name dialect) ∧
    (∀ name again, SameLetters name again → router.dialect? name = router.dialect? again) ∧
    (∀ dialect name, ¬ SameLetters dialect.name name →
      (router.register dialect).dialect? name = router.dialect? name ∧
      (∀ type, (router.register dialect).sqlType name type = router.sqlType name type) ∧
      ∀ literal, (router.register dialect).fieldType name literal = router.fieldType name literal) ∧
    Lists history router.dialects ∧
    (∀ name type sql, router.sqlType name type = .ok sql ↔
      ∃ dialect, LastUnder history name dialect ∧ dialect.sqlType? type = some sql) ∧
    (∀ name type cause, router.sqlType name type = .error cause ↔
      cause = .typeNotFound name type.name ∧
        ∀ dialect, LastUnder history name dialect → dialect.sqlType? type = none) ∧
    (∀ name literal key, router.fieldType name literal = .ok key ↔
      ∃ dialect, LastUnder history name dialect ∧ dialect.fieldType? literal = some key) ∧
    ∀ name literal cause, router.fieldType name literal = .error cause ↔
      cause = .typeNotFound name literal ∧
        ∀ dialect, LastUnder history name dialect → dialect.fieldType? literal = none := by
  intro router history
  have made : router = ofDialects history := (registerAll_append _ known calls).symm
  have found (name : String) (dialect : Dialect) :
      router.dialect? name = some dialect ↔ LastUnder history name dialect := by
    rw [made]
    exact dialect?_eq_some
  refine ⟨found, fun name again same => ?_, fun dialect name apart => ?_, ?_,
    fun name type sql => ?_, fun name type cause => ?_, fun name literal key => ?_,
    fun name literal cause => ?_⟩
  · rw [dialect?, dialect?, asciiUpper_eq_iff.mpr same]
  · have kept : (router.register dialect).dialect? name = router.dialect? name := by
      rw [dialect?_register, if_neg fun same => apart (asciiUpper_eq_iff.mp same)]
    simp only [sqlType_eq_answer, fieldType_eq_answer, kept, implies_true, and_self]
  · rw [made]
    exact lists_ofDialects history
  · simp only [sqlType_eq_answer, answer_eq_ok, found]
  · simp only [sqlType_eq_answer, answer_eq_error, found]
  · simp only [fieldType_eq_answer, answer_eq_ok, found]
  · simp only [fieldType_eq_answer, answer_eq_error, found]

/-- Over the standard dialects another spelling of one replaces it. -/
theorem respelled_dialect_replaces :
    let tiny : Dialect := (⟨"Postgres", []⟩ : Dialect).pair "int" "int4"
    let router := standard.registerAll [⟨"H2", []⟩, tiny]
    router.dialects = ["", "Postgres", "H2"] ∧
    SameLetters "postgres" "POSTGRES" ∧ router.dialect? "postgres" = router.dialect? "POSTGRES" ∧
    ¬ SameLetters "h2" "postgres" ∧
    (router.register ⟨"h2", []⟩).sqlType "postgres" (.named "int") =
      router.sqlType "postgres" (.named "int") ∧
    router.fieldType "postGRES" "Text" = .error (.typeNotFound "postGRES" "Text") ∧
    router.sqlType "oracle" (.named "int") = .error (.typeNotFound "oracle" "int") := by
  intro tiny router
  obtain ⟨found, spellings, others, -, -, missing, -, unmatched⟩ :=
    lookups_of_registrations [.standard, .postgres] [⟨"H2", []⟩, tiny]
  have same : SameLetters "postgres" "POSTGRES" := asciiUpper_eq_iff.mp (by decide)
  have apart : ¬ SameLetters "h2" "postgres" := fun same => absurd (asciiUpper_eq_iff.mpr same) (by decide)
  refine ⟨by decide, same, spellings _ _ same, apart, (others ⟨"h2", []⟩ _ apart).2.1 _,
    (unmatched _ _ _).mpr ⟨rfl, fun dialect last => ?_⟩,
    (missing _ _ _).mpr ⟨rfl, fun dialect last => ?_⟩⟩
  · have latest : router.dialect? "postGRES" = some tiny := by decide
    cases latest.symm.trans ((found _ _).mpr last)
    decide
  · have unknown : router.dialect? "oracle" = none := by decide
    cases unknown.symm.trans ((found _ _).mpr last)

end DialectRouter

end EntityMapper
