import EntityMapper.Proofs.Walk.Relation
import Mathlib.Data.List.Chain
import Mathlib.Data.List.Nodup

/-!
# The levels of a table

With inheritance, the levels of a table are a chain of superclasses that names no class twice. It
ends where a superclass is missing, not declared or in the chain already, so superclasses that form
a cycle end it too (`lineage_levels`). The levels are walked one after the other, each numbering its
variables on from the level below it (`walkLevels_run`). Both are determined by their rules.
-/
namespace EntityMapper

/-- The class that the superclass of `decl` names, if it is declared. -/
def Metadata.superclass? (metadata : Metadata) (decl : ClassDeclaration) : Option ClassDeclaration :=
  decl.superclass.bind metadata.class?

/-- The classes from `decl` upward, each followed by its superclass, until one is missing, not
declared or already visited. -/
structure Metadata.SuperclassChain (metadata : Metadata) (decl : ClassDeclaration)
    (chain : List ClassDeclaration) : Prop where
  starts : chain.head? = some decl
  climbs : chain.IsChain fun lower upper => metadata.superclass? lower = some upper
  distinct : (chain.map (·.name)).Nodup
  ends : ∀ last upper, chain.getLast? = some last → metadata.superclass? last = some upper →
    upper.name ∈ chain.map (·.name)

/-- The levels of a table: the class alone, or with inheritance its superclasses too. -/
def Metadata.Levels (metadata : Metadata) (decl : ClassDeclaration) (inheritance : Bool)
    (levels : List ClassDeclaration) : Prop :=
  if inheritance then metadata.SuperclassChain decl levels else levels = [decl]

/-- Of two chains with one start, each step of which is determined, one begins the other. -/
theorem prefix_of_isChain {α : Type} {r : α → Option α} {start : α} {first second : List α}
    (firstChain : (start :: first).IsChain fun a b => r a = some b)
    (secondChain : (start :: second).IsChain fun a b => r a = some b) :
    first <+: second ∨ second <+: first := by
  induction first generalizing start second with
  | nil => exact .inl (List.nil_prefix)
  | cons a first ih =>
    cases second with
    | nil => exact .inr (List.nil_prefix)
    | cons b second =>
      obtain ⟨stepFirst, restFirst⟩ := List.isChain_cons_cons.mp firstChain
      obtain ⟨stepSecond, restSecond⟩ := List.isChain_cons_cons.mp secondChain
      have same : a = b := Option.some.inj (stepFirst.symm.trans stepSecond)
      subst same
      simpa [List.cons_prefix_cons] using ih restFirst restSecond

/-- A chain that has ended does not begin a longer one. -/
theorem Metadata.SuperclassChain.eq_of_prefix {metadata : Metadata} {decl : ClassDeclaration}
    {first second : List ClassDeclaration} (ended : metadata.SuperclassChain decl first)
    (other : metadata.SuperclassChain decl second) (begins : first <+: second) :
    first = second := by
  obtain ⟨above, rfl⟩ := begins
  cases above with
  | nil => simp
  | cons upper above =>
    obtain ⟨last, top⟩ : ∃ last, first.getLast? = some last := by
      cases first with
      | nil => cases ended.starts
      | cons _ _ => exact ⟨_, List.getLast?_eq_some_getLast (List.cons_ne_nil _ _)⟩
    have climbed := (List.isChain_append.mp other.climbs).2.2 last top upper rfl
    have again := ended.ends last upper top climbed
    have distinct := other.distinct
    rw [List.map_append, List.nodup_append'] at distinct
    exact absurd List.mem_cons_self (distinct.2.2 again)

theorem Metadata.SuperclassChain.unique {metadata : Metadata} {decl : ClassDeclaration}
    {first second : List ClassDeclaration} (chain : metadata.SuperclassChain decl first)
    (other : metadata.SuperclassChain decl second) : first = second := by
  obtain ⟨restFirst, rfl⟩ := List.head?_eq_some_iff.mp chain.starts
  obtain ⟨restSecond, rfl⟩ := List.head?_eq_some_iff.mp other.starts
  rcases prefix_of_isChain chain.climbs other.climbs with begins | begins
  · exact chain.eq_of_prefix other (List.prefix_cons_inj _ |>.mpr begins)
  · exact (other.eq_of_prefix chain (List.prefix_cons_inj _ |>.mpr begins)).symm

/-- A budget above the number of classes not visited yet is enough for the chain. -/
theorem lineageFrom_climbs {metadata : Metadata} {budget : Nat} {visited : List String}
    {decl : ClassDeclaration} (fresh : decl.name ∉ visited)
    (enough : metadata.unentered (decl.name :: visited) < budget) :
    let chain := lineageFrom metadata budget visited decl
    chain.head? = some decl ∧
      (chain.IsChain fun lower upper => metadata.superclass? lower = some upper) ∧
      (chain.map (·.name)).Nodup ∧ (∀ level ∈ chain, level.name ∉ visited) ∧
      ∀ last upper, chain.getLast? = some last → metadata.superclass? last = some upper →
        upper.name ∈ chain.map (·.name) ∨ upper.name ∈ visited := by
  induction budget generalizing visited decl with
  | zero => omega
  | succ budget ih =>
    rw [lineageFrom, if_neg fresh]
    cases parent : decl.superclass.bind metadata.class? with
    | none =>
      refine ⟨rfl, .singleton _, by simp, by simpa using fresh, fun last upper top above => ?_⟩
      cases top
      exact absurd (parent.symm.trans above) (by simp)
    | some upper =>
      by_cases again : upper.name ∈ decl.name :: visited
      · -- The superclass has been visited: the chain ends at `decl`.
        have none : lineageFrom metadata budget (decl.name :: visited) upper = [] := by
          cases budget with
          | zero => rfl
          | succ budget => rw [lineageFrom, if_pos again]
        simp only [none]
        refine ⟨rfl, .singleton _, by simp, by simpa using fresh, fun last other top above => ?_⟩
        cases top
        have same : upper = other := Option.some.inj (parent.symm.trans above)
        subst same
        simpa using again
      · obtain ⟨name, _, declared⟩ := Option.bind_eq_some_iff.mp parent
        have named : upper.name = name := (Metadata.class?_mem declared).2
        have fewer := Metadata.unentered_cons_lt (named ▸ declared) again
        obtain ⟨starts, climbs, distinct, apart, ends⟩ := ih again (by omega)
        obtain ⟨rest, chain⟩ := List.head?_eq_some_iff.mp starts
        simp only [chain] at climbs distinct apart ends ⊢
        refine ⟨rfl, .cons_cons parent climbs, ?_, ?_, fun last other top above => ?_⟩
        · refine List.nodup_cons.mpr ⟨fun member => ?_, distinct⟩
          obtain ⟨level, inChain, same⟩ := List.mem_map.mp member
          exact apart level inChain (same ▸ List.mem_cons_self)
        · exact List.forall_mem_cons.mpr
            ⟨fresh, fun level inChain old => apart level inChain (List.mem_cons_of_mem _ old)⟩
        · rw [List.getLast?_cons_cons] at top
          rcases ends last other top above with inChain | old
          · exact .inl (List.mem_cons_of_mem _ inChain)
          · rcases List.mem_cons.mp old with same | old
            · exact .inl (same ▸ List.mem_cons_self)
            · exact .inr old

/-- The lineage of a class is its superclass chain, whatever cycles superclasses form. -/
theorem lineage_superclassChain (metadata : Metadata) (decl : ClassDeclaration) :
    metadata.SuperclassChain decl (lineage metadata decl true) := by
  have enough : metadata.unentered [decl.name] < metadata.walkBudget :=
    Nat.lt_succ_of_le (metadata.unentered_le _)
  have fresh : decl.name ∉ ([] : List String) := List.not_mem_nil
  obtain ⟨starts, climbs, distinct, _, ends⟩ := lineageFrom_climbs fresh enough
  exact ⟨starts, climbs, distinct, fun last upper top above =>
    (ends last upper top above).resolve_right List.not_mem_nil⟩

theorem lineage_levels (metadata : Metadata) (decl : ClassDeclaration) (inheritance : Bool) :
    metadata.Levels decl inheritance (lineage metadata decl inheritance) := by
  cases inheritance with
  | false => rfl
  | true => exact lineage_superclassChain metadata decl

theorem Metadata.Levels.eq_lineage {metadata : Metadata} {decl : ClassDeclaration}
    {inheritance : Bool} {levels : List ClassDeclaration}
    (ruled : metadata.Levels decl inheritance levels) :
    levels = lineage metadata decl inheritance := by
  cases inheritance with
  | false => exact ruled
  | true => exact ruled.unique (lineage_superclassChain metadata decl)

/-- Every level of a table of a declared class is declared. -/
theorem mem_lineage {metadata : Metadata} {decl level : ClassDeclaration} {inheritance : Bool}
    (declared : decl ∈ metadata.classes) (member : level ∈ lineage metadata decl inheritance) :
    level ∈ metadata.classes := by
  have ruled := lineage_levels metadata decl inheritance
  generalize lineage metadata decl inheritance = levels at member ruled
  cases inheritance with
  | false =>
    cases ruled
    exact List.mem_singleton.mp member ▸ declared
  | true =>
    obtain ⟨before, after, rfl⟩ := List.append_of_mem member
    rcases List.eq_nil_or_concat before with rfl | ⟨lower, below, rfl⟩
    · cases ruled.starts
      exact declared
    · have climbed := (List.isChain_append.mp ruled.climbs).2.2 below (by simp) level rfl
      obtain ⟨_, _, found⟩ := Option.bind_eq_some_iff.mp climbed
      exact (Metadata.class?_mem found).1

/-- The visits of each level of a table of `root`, and the variables in the end. A level starts
from the variables that the one below it leaves. -/
inductive WalkedLevels (metadata : Metadata) (root : ClassDeclaration) :
    List ClassDeclaration → Variables → List (List Visit) → Variables → Prop where
  | done (vars : Variables) : WalkedLevels metadata root [] vars [] vars
  | level {level : ClassDeclaration} {rest : List ClassDeclaration} {vars middle after : Variables}
      {visits : List Visit} {above : List (List Visit)}
      (walked : Walked metadata (levelFrame level root) level.fields vars visits middle)
      (others : WalkedLevels metadata root rest middle above after) :
      WalkedLevels metadata root (level :: rest) vars (visits :: above) after

theorem walkLevels_run (metadata : Metadata) (root : ClassDeclaration)
    (levels : List ClassDeclaration) (vars : Variables) :
    ∃ after, WalkedLevels metadata root levels vars (walkLevels metadata root levels vars) after := by
  induction levels generalizing vars with
  | nil => exact ⟨vars, .done vars⟩
  | cons level rest ih =>
    obtain ⟨after, others⟩ := ih _
    exact ⟨after, .level (walk_level_walked metadata level root vars) others⟩

theorem WalkedLevels.unique {metadata : Metadata} {root : ClassDeclaration}
    {levels : List ClassDeclaration} {vars after other : Variables} {visits others : List (List Visit)}
    (walked : WalkedLevels metadata root levels vars visits after)
    (again : WalkedLevels metadata root levels vars others other) :
    visits = others ∧ after = other := by
  induction walked generalizing others other with
  | done vars =>
    cases again
    exact ⟨rfl, rfl⟩
  | level walked _ ih =>
    cases again with
    | level walkedAgain rest =>
      obtain ⟨rfl, rfl⟩ := walked.unique walkedAgain
      obtain ⟨rfl, rfl⟩ := ih rest
      exact ⟨rfl, rfl⟩

theorem WalkedLevels.append {metadata : Metadata} {root : ClassDeclaration}
    {lower upper : List ClassDeclaration} {vars middle after : Variables}
    {below above : List (List Visit)} (walkedLower : WalkedLevels metadata root lower vars below middle)
    (walkedUpper : WalkedLevels metadata root upper middle above after) :
    WalkedLevels metadata root (lower ++ upper) vars (below ++ above) after := by
  induction walkedLower with
  | done vars => exact walkedUpper
  | level walked _ ih => exact .level walked (ih walkedUpper)

/-- The visits of one level among all are those of its walk, which starts where the levels below
have ended. -/
theorem WalkedLevels.split {metadata : Metadata} {root : ClassDeclaration}
    {levels : List ClassDeclaration} {vars after : Variables} {below above : List (List Visit)}
    {visits : List Visit}
    (walked : WalkedLevels metadata root levels vars (below ++ visits :: above) after) :
    ∃ lower level upper middle beyond, levels = lower ++ level :: upper ∧
      WalkedLevels metadata root lower vars below middle ∧
      Walked metadata (levelFrame level root) level.fields middle visits beyond := by
  induction below generalizing levels vars with
  | nil =>
    cases walked with
    | level walked _ => exact ⟨[], _, _, vars, _, rfl, .done vars, walked⟩
  | cons first below ih =>
    cases walked with
    | level walked others =>
      obtain ⟨lower, level, upper, middle, beyond, rfl, walkedLower, here⟩ := ih others
      exact ⟨_ :: lower, level, upper, middle, beyond, rfl, .level walked walkedLower, here⟩

/-- Each level among all is walked. -/
theorem WalkedLevels.exists_walked {metadata : Metadata} {root : ClassDeclaration}
    {levels : List ClassDeclaration} {vars after : Variables} {visits : List (List Visit)}
    (walked : WalkedLevels metadata root levels vars visits after) {level : ClassDeclaration}
    (member : level ∈ levels) :
    ∃ seen ∈ visits, ∃ before beyond,
      Walked metadata (levelFrame level root) level.fields before seen beyond := by
  induction walked with
  | done vars => cases member
  | level here _ ih =>
    rcases List.mem_cons.mp member with rfl | above
    · exact ⟨_, List.mem_cons_self, _, _, here⟩
    · obtain ⟨seen, inRest, walked⟩ := ih above
      exact ⟨seen, List.mem_cons_of_mem _ inRest, walked⟩

end EntityMapper
