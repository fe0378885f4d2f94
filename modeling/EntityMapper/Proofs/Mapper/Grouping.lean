import EntityMapper.Mapper.Embedded
import Mathlib.Data.List.Nodup
import Mathlib.Data.List.Perm.Basic

/-!
# Grouping columns by embedded object

Where variables identify embedded instances, the columns of a table group into one object for each
instance that their parents pass through, in the place those parents give it, and each column lies
in the object of its innermost parent (`ofColumns_groups`).
-/
namespace EntityMapper

/-- An embedded field with the embedded fields around it, outermost first. -/
structure Instance where
  outer : List Embedding
  field : Embedding
  deriving DecidableEq

namespace Instance

def chain (inst : Instance) : List Embedding :=
  inst.outer ++ [inst.field]

/-- The instances that the fields `parents` inside `outer` pass through. -/
def along : (outer parents : List Embedding) → List Instance
  | _, [] => []
  | outer, parent :: below => ⟨outer, parent⟩ :: along (outer ++ [parent]) below

theorem mem_along {outer parents : List Embedding} {inst : Instance} :
    inst ∈ along outer parents ↔
      outer.length ≤ inst.outer.length ∧ inst.chain <+: outer ++ parents := by
  induction parents generalizing outer with
  | nil =>
    have longer : inst.chain.length = inst.outer.length + 1 := by simp [chain]
    simp only [along, List.not_mem_nil, List.append_nil, false_iff, not_and]
    intro deep inside
    have bounded := inside.length_le
    omega
  | cons parent below ih =>
    rw [along, List.mem_cons, ih, List.append_assoc, List.singleton_append, List.length_append,
      List.length_singleton]
    constructor
    · rintro (rfl | ⟨deep, inside⟩)
      · exact ⟨Nat.le_refl _, below, by simp [chain]⟩
      · exact ⟨by omega, inside⟩
    · rintro ⟨deep, rest, same⟩
      rcases Nat.eq_or_lt_of_le deep with level | deeper
      · rw [chain, List.append_assoc, List.singleton_append] at same
        obtain ⟨around, tail⟩ := List.append_inj same level.symm
        obtain ⟨field, _⟩ := List.cons.inj tail
        exact .inl (by cases inst; simp_all)
      · exact .inr ⟨deeper, rest, same⟩

end Instance

namespace EmbeddedObject

/-- The instances of the objects inside `outer`, each with its columns. -/
def placed : (outer : List Embedding) → List EmbeddedObject → List (Instance × List Column)
  | _, [] => []
  | outer, .of field columns inner :: rest =>
    (⟨outer, field⟩, columns) :: placed (outer ++ [field]) inner ++ placed outer rest

def instances (outer : List Embedding) (objects : List EmbeddedObject) : List Instance :=
  (placed outer objects).map (·.1)

/-- Every column with the chain of the instance that has it. -/
def stored (outer : List Embedding) (objects : List EmbeddedObject) :
    List (List Embedding × Column) :=
  (placed outer objects).flatMap fun (inst, columns) => columns.map (inst.chain, ·)

/-- Objects side by side differ by variable, at every depth. -/
inductive Separate : List EmbeddedObject → Prop where
  | nil : Separate []
  | cons {field : Embedding} {columns : List Column} {inner rest : List EmbeddedObject}
      (fresh : ∀ object ∈ rest, object.field.varName ≠ field.varName) (inside : Separate inner)
      (others : Separate rest) : Separate (.of field columns inner :: rest)

theorem placed_append (outer : List Embedding) (first second : List EmbeddedObject) :
    placed outer (first ++ second) = placed outer first ++ placed outer second := by
  induction first with
  | nil => simp [placed]
  | cons object rest ih =>
    obtain ⟨field, columns, inner⟩ := object
    simp [placed, ih]

@[simp] theorem instances_nil (outer : List Embedding) : instances outer [] = [] := by
  simp [instances, placed]

@[simp] theorem instances_cons (outer : List Embedding) (field : Embedding) (columns : List Column)
    (inner rest : List EmbeddedObject) :
    instances outer (.of field columns inner :: rest) =
      ⟨outer, field⟩ :: (instances (outer ++ [field]) inner ++ instances outer rest) := by
  simp [instances, placed]

@[simp] theorem instances_append (outer : List Embedding) (first second : List EmbeddedObject) :
    instances outer (first ++ second) = instances outer first ++ instances outer second := by
  simp [instances, placed_append]

@[simp] theorem stored_nil (outer : List Embedding) : stored outer [] = [] := by
  simp [stored, placed]

@[simp] theorem stored_cons (outer : List Embedding) (field : Embedding) (columns : List Column)
    (inner rest : List EmbeddedObject) :
    stored outer (.of field columns inner :: rest) = columns.map (outer ++ [field], ·) ++
      (stored (outer ++ [field]) inner ++ stored outer rest) := by
  simp [stored, placed, Instance.chain]

@[simp] theorem stored_append (outer : List Embedding) (first second : List EmbeddedObject) :
    stored outer (first ++ second) = stored outer first ++ stored outer second := by
  simp [stored, placed_append]

theorem separate_append {first second : List EmbeddedObject} :
    Separate (first ++ second) ↔ Separate first ∧ Separate second ∧
      ∀ a ∈ first, ∀ b ∈ second, b.field.varName ≠ a.field.varName := by
  induction first with
  | nil => simp [Separate.nil]
  | cons object rest ih =>
    constructor
    · intro separate
      cases separate with
      | cons fresh inside others =>
        obtain ⟨before, after, apart⟩ := ih.mp others
        refine ⟨.cons (fun other member => fresh other (List.mem_append_left _ member)) inside
          before, after, List.forall_mem_cons.mpr ⟨fun other member => ?_, apart⟩⟩
        exact fresh other (List.mem_append_right _ member)
    · rintro ⟨separate, after, apart⟩
      obtain ⟨here, there⟩ := List.forall_mem_cons.mp apart
      cases separate with
      | cons fresh inside before =>
        refine .cons (fun other member => ?_) inside (ih.mpr ⟨before, after, there⟩)
        exact (List.mem_append.mp member).elim (fresh other) (here other)

/-- An update changes the object of the variable; the list has it, or else it is new at the end. -/
theorem update_eq (field : Embedding) (change : EmbeddedObject → EmbeddedObject)
    (objects : List EmbeddedObject) :
    ∃ before object after, object.field.varName = field.varName ∧
      (before ++ object :: after = objects ∨
        object = .of field [] [] ∧ before = objects ∧ after = [] ∧
          ∀ other ∈ objects, other.field.varName ≠ field.varName) ∧
      update field change objects = before ++ change object :: after := by
  induction objects with
  | nil => exact ⟨[], .of field [] [], [], rfl, .inr ⟨rfl, rfl, rfl, by simp⟩, rfl⟩
  | cons first rest ih =>
    by_cases same : first.field.varName = field.varName
    · exact ⟨[], first, rest, same, .inl rfl, by simp [update, same]⟩
    · obtain ⟨before, object, after, named, found, updated⟩ := ih
      refine ⟨first :: before, object, after, named, ?_, by simp [update, same, updated]⟩
      rcases found with rfl | ⟨fresh, rfl, last, others⟩
      · exact .inl rfl
      · exact .inr ⟨fresh, rfl, last, List.forall_mem_cons.mpr ⟨same, others⟩⟩

/-- What an object does with a column whose parents go on with `below`: it takes the column, or
passes it on to the objects inside. -/
def receive (column : Column) (below : List Embedding) : EmbeddedObject → EmbeddedObject
  | .of field columns inner =>
    .of field (columns ++ if below = [] then [column] else []) (insert column below inner)

theorem insert_cons (column : Column) (parent : Embedding) (below : List Embedding)
    (objects : List EmbeddedObject) :
    insert column (parent :: below) objects = update parent (receive column below) objects := by
  cases below with
  | nil =>
    rw [insert]
    congr 1
  | cons next below =>
    rw [insert]
    · congr 1
      funext object
      cases object
      simp [receive]
    · simp

/-- An insertion opens at most an object of the column's outermost parent. -/
theorem mem_fields_insert {column : Column} {parents : List Embedding}
    {objects : List EmbeddedObject} {opened : Embedding}
    (member : opened ∈ (insert column parents objects).map (·.field)) :
    opened ∈ objects.map (·.field) ∨ parents.head? = some opened := by
  cases parents with
  | nil => exact .inl member
  | cons parent below =>
    obtain ⟨before, object, after, _, found, updated⟩ :=
      update_eq parent (receive column below) objects
    have same : (receive column below object).field = object.field := by cases object; rfl
    rw [insert_cons, updated, List.map_append, List.map_cons, same, ← List.map_cons,
      ← List.map_append] at member
    rcases found with rfl | ⟨rfl, rfl, rfl, _⟩
    · exact .inl member
    · rw [List.map_append, List.mem_append] at member
      exact member.imp_right fun new => congrArg some (List.mem_singleton.mp new).symm

/-- The outermost objects are of outermost parents. -/
theorem exists_head_of_mem_ofColumns {columns : List Column} {object : EmbeddedObject}
    (member : object ∈ ofColumns columns) :
    ∃ column ∈ columns, column.parents.head? = some object.field := by
  have opened (columns : List Column) (objects : List EmbeddedObject) (field : Embedding)
      (inside : field ∈ (columns.foldl (fun objects column =>
        insert column column.parents objects) objects).map (·.field)) :
      field ∈ objects.map (·.field) ∨ ∃ column ∈ columns, column.parents.head? = some field := by
    induction columns generalizing objects with
    | nil => exact .inl inside
    | cons column rest ih =>
      rcases ih _ inside with here | ⟨other, later, first⟩
      · rcases mem_fields_insert here with old | first
        · exact .inl old
        · exact .inr ⟨column, List.mem_cons_self, first⟩
      · exact .inr ⟨other, List.mem_cons_of_mem _ later, first⟩
  rcases opened columns [] object.field (List.mem_map_of_mem member) with none | found
  · cases none
  · exact found

/-- The columns of the objects, at every depth. -/
def allColumns : List EmbeddedObject → List Column
  | [] => []
  | .of _ columns inner :: rest => columns ++ allColumns inner ++ allColumns rest

theorem allColumns_append (first second : List EmbeddedObject) :
    allColumns (first ++ second) = allColumns first ++ allColumns second := by
  induction first with
  | nil => simp [allColumns]
  | cons object rest ih =>
    obtain ⟨field, columns, inner⟩ := object
    simp [allColumns, ih]

/-- An insertion adds its column and loses none, whatever the variables on the way. -/
theorem allColumns_insert (column : Column) {parents : List Embedding} (nested : parents ≠ [])
    (objects : List EmbeddedObject) :
    (allColumns (insert column parents objects)).Perm (column :: allColumns objects) := by
  induction parents generalizing objects with
  | nil => exact absurd rfl nested
  | cons parent below ih =>
    obtain ⟨before, object, after, _, found, updated⟩ :=
      update_eq parent (receive column below) objects
    have whole : allColumns objects = allColumns (before ++ object :: after) := by
      rcases found with rfl | ⟨rfl, rfl, rfl, _⟩
      · rfl
      · simp [allColumns_append, allColumns]
    obtain ⟨field, columns, inner⟩ := object
    rw [insert_cons, updated, whole, receive, allColumns_append, allColumns_append]
    apply List.perm_iff_count.mpr
    intro entry
    cases below with
    | nil =>
      simp only [allColumns, insert, if_true, List.count_append, List.count_cons, List.count_nil]
      omega
    | cons next below =>
      have inside := List.perm_iff_count.mp (ih (List.cons_ne_nil next below) inner) entry
      simp only [allColumns, reduceCtorEq, if_false, List.append_nil, List.count_append,
        List.count_cons] at inside ⊢
      omega

theorem allColumns_foldl_insert {columns : List Column}
    (nested : ∀ column ∈ columns, column.parents ≠ []) (objects : List EmbeddedObject) :
    (allColumns (columns.foldl (fun objects column => insert column column.parents objects)
      objects)).Perm (columns ++ allColumns objects) := by
  induction columns generalizing objects with
  | nil => exact .refl _
  | cons column rest ih =>
    obtain ⟨first, others⟩ := List.forall_mem_cons.mp nested
    rw [List.foldl_cons]
    have later := ih others (insert column column.parents objects)
    have own := (allColumns_insert column first objects).append_left rest
    exact (later.trans own).trans List.perm_middle

/-- The objects of embedded columns hold all of them, each once. -/
theorem allColumns_ofColumns {columns : List Column}
    (nested : ∀ column ∈ columns, column.parents ≠ []) :
    (allColumns (ofColumns columns)).Perm columns := by
  simpa [ofColumns, allColumns] using allColumns_foldl_insert nested []

section Insertion

variable {known : Instance → Prop}
  (identified : ∀ a b, known a → known b → a.field.varName = b.field.varName → a = b)

include identified

/-- Where variables identify instances, a column goes into an object of its own parent. With that
object opened at the end, if need be, nothing else changes. -/
theorem insert_eq (column : Column) (parent : Embedding) (below outer : List Embedding)
    (objects : List EmbeddedObject) (fits : ∀ inst ∈ instances outer objects, known inst)
    (here : known ⟨outer, parent⟩) :
    ∃ before columns inner after,
      (objects = before ++ .of parent columns inner :: after ∨
        objects = before ∧ columns = [] ∧ inner = [] ∧ after = [] ∧
          ∀ other ∈ objects, other.field.varName ≠ parent.varName) ∧
      insert column (parent :: below) objects =
        before ++ receive column below (.of parent columns inner) :: after := by
  obtain ⟨before, object, after, named, found, updated⟩ :=
    update_eq parent (receive column below) objects
  obtain ⟨field, columns, inner⟩ := object
  rw [← insert_cons] at updated
  rcases found with rfl | ⟨fresh, rfl, rfl, others⟩
  · have stands : (⟨outer, field⟩ : Instance) ∈
        instances outer (before ++ .of field columns inner :: after) := by simp
    have same := identified _ _ (fits _ stands) here named
    cases same
    exact ⟨before, columns, inner, after, .inl rfl, updated⟩
  · cases fresh
    exact ⟨before, [], [], [], .inr ⟨rfl, rfl, rfl, rfl, others⟩, updated⟩

/-- An insertion adds the instances along the way of the column. -/
theorem mem_instances_insert (column : Column) (parents outer : List Embedding)
    (objects : List EmbeddedObject) (fits : ∀ inst ∈ instances outer objects, known inst)
    (path : ∀ inst ∈ Instance.along outer parents, known inst) (inst : Instance) :
    inst ∈ instances outer (insert column parents objects) ↔
      inst ∈ Instance.along outer parents ∨ inst ∈ instances outer objects := by
  induction parents generalizing outer objects with
  | nil => simp [insert, Instance.along]
  | cons parent below ih =>
    obtain ⟨here, deeper⟩ := List.forall_mem_cons.mp path
    obtain ⟨before, columns, inner, after, opened, inserted⟩ :=
      insert_eq identified column parent below outer objects fits here
    rw [inserted, receive, instances_append, instances_cons]
    rcases opened with rfl | ⟨rfl, rfl, rfl, rfl, _⟩
    · have inside := ih (outer ++ [parent]) inner
        (fun other member => fits other (by simp [member])) deeper
      simp only [List.mem_append, List.mem_cons, inside, Instance.along, instances_append,
        instances_cons]
      tauto
    · have inside := ih (outer ++ [parent]) [] (by simp) deeper
      simp only [List.mem_append, List.mem_cons, inside, Instance.along, instances_nil,
        List.not_mem_nil, or_false]
      tauto

/-- An insertion stores the column with its parents, and loses nothing. -/
theorem stored_insert (column : Column) (parents outer : List Embedding)
    (objects : List EmbeddedObject) (fits : ∀ inst ∈ instances outer objects, known inst)
    (path : ∀ inst ∈ Instance.along outer parents, known inst) :
    (stored outer (insert column parents objects)).Perm
      ((if parents = [] then [] else [(outer ++ parents, column)]) ++ stored outer objects) := by
  induction parents generalizing outer objects with
  | nil => simp [insert]
  | cons parent below ih =>
    obtain ⟨here, deeper⟩ := List.forall_mem_cons.mp path
    obtain ⟨before, columns, inner, after, opened, inserted⟩ :=
      insert_eq identified column parent below outer objects fits here
    have inside := ih (outer ++ [parent]) inner (fun other member => by
      rcases opened with rfl | ⟨_, _, rfl, _, _⟩
      · exact fits other (by simp [member])
      · simp at member) deeper
    have same : stored outer objects = stored outer (before ++ .of parent columns inner :: after) := by
      rcases opened with rfl | ⟨rfl, rfl, rfl, rfl, _⟩
      · rfl
      · simp
    rw [inserted, receive, same]
    refine List.perm_iff_count.mpr fun entry => ?_
    have counted := List.perm_iff_count.mp inside entry
    by_cases last : below = []
    · simp only [last, stored_append, stored_cons, List.count_append] at counted ⊢
      simp at counted ⊢
      omega
    · simp only [last, stored_append, stored_cons, List.count_append] at counted ⊢
      simp at counted ⊢
      omega

theorem separate_insert (column : Column) (parents outer : List Embedding)
    (objects : List EmbeddedObject) (fits : ∀ inst ∈ instances outer objects, known inst)
    (path : ∀ inst ∈ Instance.along outer parents, known inst) (separate : Separate objects) :
    Separate (insert column parents objects) := by
  induction parents generalizing outer objects with
  | nil => exact separate
  | cons parent below ih =>
    obtain ⟨here, deeper⟩ := List.forall_mem_cons.mp path
    obtain ⟨before, columns, inner, after, opened, inserted⟩ :=
      insert_eq identified column parent below outer objects fits here
    rw [inserted, receive]
    rcases opened with rfl | ⟨rfl, rfl, rfl, rfl, others⟩
    · obtain ⟨first, second, apart⟩ := separate_append.mp separate
      cases second with
      | cons fresh nested last =>
        have inside := ih (outer ++ [parent]) inner
          (fun other member => fits other (by simp [member])) deeper nested
        refine separate_append.mpr ⟨first, .cons fresh inside last, fun a memberA b memberB => ?_⟩
        rcases List.mem_cons.mp memberB with rfl | later
        · exact apart a memberA (.of parent columns inner) List.mem_cons_self
        · exact apart a memberA b (List.mem_cons_of_mem _ later)
    · have inside := ih (outer ++ [parent]) [] (by simp) deeper .nil
      refine separate_append.mpr ⟨separate, .cons (by simp) inside .nil, fun a memberA b memberB => ?_⟩
      cases List.mem_singleton.mp memberB
      exact Ne.symm (others a memberA)

/-- Columns inserted one after the other. -/
theorem foldl_insert_groups (columns : List Column) (objects : List EmbeddedObject)
    (embedded : ∀ column ∈ columns, column.parents ≠ [])
    (paths : ∀ column ∈ columns, ∀ inst ∈ Instance.along [] column.parents, known inst)
    (fits : ∀ inst ∈ instances [] objects, known inst) (separate : Separate objects) :
    let grown := columns.foldl (fun objects column => insert column column.parents objects) objects
    (∀ inst, inst ∈ instances [] grown ↔
      (∃ column ∈ columns, inst ∈ Instance.along [] column.parents) ∨
        inst ∈ instances [] objects) ∧
    (stored [] grown).Perm
      (columns.map (fun column => (column.parents, column)) ++ stored [] objects) ∧
    Separate grown := by
  induction columns generalizing objects with
  | nil => exact ⟨by simp, by simp, separate⟩
  | cons column rest ih =>
    obtain ⟨nested, others⟩ := List.forall_mem_cons.mp embedded
    obtain ⟨path, otherPaths⟩ := List.forall_mem_cons.mp paths
    have added := mem_instances_insert identified column column.parents [] objects fits path
    have kept := stored_insert identified column column.parents [] objects fits path
    rw [if_neg nested] at kept
    obtain ⟨reached, permuted, apart⟩ := ih (insert column column.parents objects) others
      otherPaths (fun inst member => ((added inst).mp member).elim (path inst) (fits inst))
      (separate_insert identified column column.parents [] objects fits path separate)
    refine ⟨fun inst => ?_, ?_, apart⟩
    · simp only [List.foldl_cons, reached, added, List.mem_cons, exists_eq_or_imp]
      rw [or_left_comm, ← or_assoc]
    · refine permuted.trans ?_
      rw [List.map_cons, List.cons_append]
      exact (kept.append_left _).trans List.perm_middle

/-- The objects of a table's columns: one for each instance on the way of a column, with the columns
whose parents end there. -/
theorem ofColumns_groups (columns : List Column)
    (embedded : ∀ column ∈ columns, column.parents ≠ [])
    (paths : ∀ column ∈ columns, ∀ inst ∈ Instance.along [] column.parents, known inst) :
    (∀ inst, inst ∈ instances [] (ofColumns columns) ↔
      ∃ column ∈ columns, inst ∈ Instance.along [] column.parents) ∧
    (stored [] (ofColumns columns)).Perm (columns.map fun column => (column.parents, column)) ∧
    Separate (ofColumns columns) := by
  obtain ⟨reached, permuted, separate⟩ :=
    foldl_insert_groups identified columns [] embedded paths (by simp) .nil
  rw [ofColumns]
  exact ⟨fun inst => by simpa using reached inst, by simpa using permuted, separate⟩

end Insertion

/-- Every instance lies at or below one of the objects. -/
theorem exists_of_mem_instances {outer : List Embedding} {objects : List EmbeddedObject}
    {inst : Instance} (member : inst ∈ instances outer objects) :
    ∃ object ∈ objects, outer ++ [object.field] <+: inst.chain := by
  induction outer, objects using placed.induct with
  | case1 outer => simp at member
  | case2 outer field columns inner rest ihInner ihRest =>
    rw [instances_cons, List.mem_cons, List.mem_append] at member
    rcases member with rfl | inside | beside
    · exact ⟨_, List.mem_cons_self, List.prefix_refl _⟩
    · obtain ⟨object, _, above⟩ := ihInner inside
      exact ⟨_, List.mem_cons_self, (List.prefix_append _ _).trans above⟩
    · obtain ⟨object, inRest, above⟩ := ihRest beside
      exact ⟨object, List.mem_cons_of_mem _ inRest, above⟩

/-- Separate objects stand for different instances. -/
theorem Separate.instances_nodup {objects : List EmbeddedObject} (separate : Separate objects)
    (outer : List Embedding) : (instances outer objects).Nodup := by
  induction separate generalizing outer with
  | nil => simp
  | @cons field columns inner rest fresh inside others ihInner ihRest =>
    have apart : ∀ inst ∈ instances outer rest, ¬ outer ++ [field] <+: inst.chain := by
      intro inst member above
      obtain ⟨object, inRest, beside⟩ := exists_of_mem_instances member
      have same := List.prefix_of_prefix_length_le above beside (by simp)
      have field : field = object.field := by simpa using same
      exact fresh object inRest (by rw [field])
    rw [instances_cons, List.nodup_cons, List.mem_append, List.nodup_append]
    refine ⟨?_, ihInner _, ihRest _, ?_⟩
    · rintro (inside | beside)
      · obtain ⟨object, _, above⟩ := exists_of_mem_instances inside
        have long := above.length_le
        simp [Instance.chain] at long
      · exact apart _ beside (List.prefix_refl _)
    · rintro inst nested other beside rfl
      obtain ⟨object, _, above⟩ := exists_of_mem_instances nested
      exact apart inst beside ((List.prefix_append _ _).trans above)

end EmbeddedObject

end EntityMapper
