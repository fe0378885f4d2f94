import EntityMapper.Naming.Catalog

/-!
# Instances of a strategy pool

A pool goes through registrations, questions and resolutions in any order. What is handed out under a key
is told by its number: a number that was handed out is never made again, and it stays with its key
(`Confined.step`) until the name is registered again, which takes it away (`Confined.retired`). So a name
has one instance for each time it was registered, and no other key ever has the same
(`one_instance_per_registration`).
-/
namespace EntityMapper

/-- One use of a pool. -/
inductive StrategyStep where
  | register (name : String) (factory : StrategyFactory)
  | contains (name : String)
  /-- Without a name the default strategy is resolved. -/
  | resolve (name : Option String)

/-- The factory registered last under the name: in the steps, or before them in the catalog. -/
def StrategyCatalog.LatestFactory (catalog : StrategyCatalog) (steps : List StrategyStep)
    (name : String) (factory : StrategyFactory) : Prop :=
  (∃ earlier later, steps = earlier ++ .register name factory :: later ∧
    ∀ other, .register name other ∉ later) ∨
  (catalog.factories.get? name = some factory ∧ ∀ other, .register name other ∉ steps)

/-- The catalog has the name, or a step registers it. -/
def StrategyCatalog.Registered (catalog : StrategyCatalog) (steps : List StrategyStep)
    (name : String) : Prop :=
  name ∈ catalog.factories.names ∨ ∃ factory, .register name factory ∈ steps

theorem StrategyCatalog.names_standard :
    standard.factories.names = ["default", "snake_case", "upper_snake_case"] :=
  rfl

theorem StrategyCatalog.make_eq_ok_iff {catalog : StrategyCatalog} {name : String}
    {strategy : NamingStrategy} :
    catalog.make name = .ok strategy ↔ catalog.factories.get? name = some (.ok strategy) := by
  rw [make]
  split <;> simp_all

theorem StrategyCatalog.make_eq_error_iff {catalog : StrategyCatalog} {name : String}
    {cause : MappingError} :
    catalog.make name = .error cause ↔
      name ∉ catalog.factories.names ∧ cause = .strategyNotRegistered name ∨
      ∃ reason, catalog.factories.get? name = some (.error reason) ∧
        cause = .strategyFailed name reason := by
  rw [make, ← Entries.get?_eq_none]
  cases catalog.factories.get? name with
  | none => simp [eq_comm]
  | some factory => cases factory <;> simp [eq_comm]

namespace StrategyPool

/-- The pool that a step leaves. -/
def step (pool : StrategyPool) : StrategyStep → StrategyPool
  | .register name factory => pool.register name factory
  | .contains _ => pool
  | .resolve name => (pool.resolve name).2

def after (pool : StrategyPool) (steps : List StrategyStep) : StrategyPool :=
  steps.foldl step pool

/-- What the pool answers to a resolution. -/
def handsOut (pool : StrategyPool) (key : Option String) : Except MappingError StrategyInstance :=
  (pool.resolve key).1

/-- What the pool hands out without making it. -/
def held? (pool : StrategyPool) : Option String → Option StrategyInstance
  | none => some pool.defaultInstance
  | some name => pool.live.get? name

theorem after_append_cons (pool : StrategyPool) (steps later : List StrategyStep)
    (step : StrategyStep) :
    pool.after (steps ++ step :: later) = ((pool.after steps).step step).after later :=
  List.foldl_append

variable {pool : StrategyPool} {key : Option String} {inst : StrategyInstance}

/-- The pool with a new instance, under the next number. -/
def withMade (pool : StrategyPool) (name : String) (strategy : NamingStrategy) : StrategyPool :=
  { pool with
    live := Entries.insert name ⟨pool.nextNumber, strategy⟩ pool.live
    nextNumber := pool.nextNumber + 1 }

theorem held?_withMade (pool : StrategyPool) (name : String) (strategy : NamingStrategy)
    (key : Option String) :
    (pool.withMade name strategy).held? key =
      if some name = key then some ⟨pool.nextNumber, strategy⟩ else pool.held? key := by
  cases key with
  | none => rfl
  | some asked => simp only [held?, withMade, Entries.get?_insert, Option.some.injEq]

theorem held?_register (pool : StrategyPool) (name : String) (factory : StrategyFactory)
    (key : Option String) :
    (pool.register name factory).held? key = if some name = key then none else pool.held? key := by
  cases key with
  | none => rfl
  | some asked => simp only [held?, register, Entries.get?_erase, Option.some.injEq]

/-- All that a resolution can do: hand out what is held, make it, or fail and change nothing. -/
inductive Resolution (pool : StrategyPool) :
    Option String → Except MappingError StrategyInstance → StrategyPool → Prop where
  | held {key : Option String} {inst : StrategyInstance} (found : pool.held? key = some inst) :
    pool.Resolution key (.ok inst) pool
  | made {name : String} {strategy : NamingStrategy} (missing : pool.held? (some name) = none)
    (built : pool.catalog.make name = .ok strategy) :
    pool.Resolution (some name) (.ok ⟨pool.nextNumber, strategy⟩) (pool.withMade name strategy)
  | failed {name : String} {cause : MappingError} (missing : pool.held? (some name) = none)
    (refused : pool.catalog.make name = .error cause) :
    pool.Resolution (some name) (.error cause) pool

theorem resolution (pool : StrategyPool) (key : Option String) :
    pool.Resolution key (pool.handsOut key) (pool.step (.resolve key)) := by
  rw [handsOut, step]
  cases key with
  | none => exact .held rfl
  | some name =>
    rw [resolve]
    cases live : pool.live.get? name with
    | some inst => exact .held live
    | none =>
      cases made : pool.catalog.make name with
      | ok strategy => exact .made live made
      | error cause => exact .failed live made

/-- A resolution leaves the catalog as it is. -/
theorem catalog_step_resolve (pool : StrategyPool) (key : Option String) :
    (pool.step (.resolve key)).catalog = pool.catalog := by
  have resolved := pool.resolution key
  generalize pool.handsOut key = answer, pool.step (.resolve key) = next at resolved ⊢
  cases resolved <;> rfl

/-- What is handed out is held from then on. -/
theorem held?_step_resolve (found : pool.handsOut key = .ok inst) :
    (pool.step (.resolve key)).held? key = some inst := by
  have resolved := pool.resolution key
  rw [found] at resolved
  generalize pool.step (.resolve key) = next at resolved ⊢
  cases resolved with
  | held known => exact known
  | made missing built => rw [held?_withMade, if_pos rfl]

/-- What is held after a step was held before, or the step is the resolution that makes it. -/
theorem held?_step {taken : StrategyStep} (held : (pool.step taken).held? key = some inst) :
    pool.held? key = some inst ∨
      taken = .resolve key ∧ inst.number = pool.nextNumber ∧
        (pool.step taken).nextNumber = pool.nextNumber + 1 := by
  cases taken with
  | contains name => exact .inl held
  | register name factory =>
    rw [step, held?_register] at held
    split at held
    · cases held
    · exact .inl held
  | resolve asked =>
    have resolved := pool.resolution asked
    generalize pool.handsOut asked = answer, pool.step (.resolve asked) = next at resolved held ⊢
    cases resolved with
    | held known => exact .inl held
    | failed missing refused => exact .inl held
    | made missing built =>
      rw [held?_withMade] at held
      split at held
      · rename_i same
        cases held
        exact .inr ⟨by rw [same], rfl, rfl⟩
      · exact .inl held

theorem nextNumber_le_step (pool : StrategyPool) (taken : StrategyStep) :
    pool.nextNumber ≤ (pool.step taken).nextNumber := by
  cases taken with
  | contains name => exact Nat.le_refl _
  | register name factory => exact Nat.le_refl _
  | resolve asked =>
    have resolved := pool.resolution asked
    generalize pool.handsOut asked = answer, pool.step (.resolve asked) = next at resolved ⊢
    cases resolved with
    | held known => exact Nat.le_refl _
    | made missing built => exact Nat.le_succ _
    | failed missing refused => exact Nat.le_refl _

/-- A live instance is lost only when its name is registered. -/
theorem held?_step_of_ne {name : String} {taken : StrategyStep}
    (held : pool.held? (some name) = some inst) (other : ∀ factory, taken ≠ .register name factory) :
    (pool.step taken).held? (some name) = some inst := by
  cases taken with
  | contains asked => exact held
  | register asked factory =>
    have apart : some asked ≠ some name := by
      rintro same
      cases same
      exact other factory rfl
    rw [step, held?_register, if_neg apart, held]
  | resolve asked =>
    have resolved := pool.resolution asked
    generalize pool.handsOut asked = answer, pool.step (.resolve asked) = next at resolved ⊢
    cases resolved with
    | held known => exact held
    | failed missing refused => exact held
    | made missing built =>
      rw [held?_withMade, if_neg, held]
      intro same
      rw [same, held] at missing
      cases missing

theorem held?_after {name : String} {steps : List StrategyStep}
    (held : pool.held? (some name) = some inst)
    (others : ∀ factory, .register name factory ∉ steps) :
    (pool.after steps).held? (some name) = some inst := by
  induction steps generalizing pool with
  | nil => exact held
  | cons taken rest ih =>
    refine ih (held?_step_of_ne held fun factory same => ?_) fun factory member =>
      others factory (List.mem_cons_of_mem _ member)
    exact others factory (same ▸ List.mem_cons_self)

theorem handsOut_of_held? (held : pool.held? key = some inst) : pool.handsOut key = .ok inst := by
  have resolved := pool.resolution key
  generalize pool.handsOut key = answer, pool.step (.resolve key) = next at resolved ⊢
  cases resolved with
  | held known => rw [Option.some.inj (held.symm.trans known)]
  | made missing built => exact absurd (held.symm.trans missing) (Option.some_ne_none _)
  | failed missing refused => exact absurd (held.symm.trans missing) (Option.some_ne_none _)

/-! ### A number stays with its key -/

/-- The number is taken, and what is held under it is held under the allowed keys only. -/
structure Confined (pool : StrategyPool) (number : Nat) (allowed : Option String → Prop) :
    Prop where
  taken : number < pool.nextNumber
  keyed : ∀ key inst, pool.held? key = some inst → inst.number = number → allowed key

section Confined

variable {number : Nat} {allowed : Option String → Prop}

theorem Confined.step (confined : pool.Confined number allowed) (taken : StrategyStep) :
    (pool.step taken).Confined number allowed where
  taken := Nat.lt_of_lt_of_le confined.taken (pool.nextNumber_le_step taken)
  keyed key inst held same := by
    rcases held?_step held with before | ⟨_, made, _⟩
    · exact confined.keyed key inst before same
    · -- only the next number is made, and the one at hand is taken
      exact absurd (same.symm.trans made) (Nat.ne_of_lt confined.taken)

theorem Confined.after (confined : pool.Confined number allowed) (steps : List StrategyStep) :
    (pool.after steps).Confined number allowed := by
  induction steps generalizing pool with
  | nil => exact confined
  | cons taken rest ih => exact ih (confined.step taken)

/-- Registering a name takes the number it had away for good. -/
theorem Confined.retired {name : String} (confined : pool.Confined number (· = some name))
    (factory : StrategyFactory) :
    (pool.step (.register name factory)).Confined number fun _ => False where
  taken := (confined.step _).taken
  keyed key inst held same := by
    obtain rfl := (confined.step _).keyed key inst held same
    rw [StrategyPool.step, held?_register, if_pos rfl] at held
    cases held

/-- What is handed out has an allowed key, if its number was taken. -/
theorem Confined.handsOut (confined : pool.Confined number allowed)
    (found : pool.handsOut key = .ok inst) (same : inst.number = number) : allowed key :=
  (confined.step (.resolve key)).keyed key inst (held?_step_resolve found) same

end Confined

/-! ### What a pool keeps -/

/-- Live instances are of the registered factories, and the number of each has one key. -/
structure Sound (pool : StrategyPool) : Prop where
  made : ∀ name inst, pool.held? (some name) = some inst →
    pool.catalog.factories.get? name = some (.ok inst.strategy)
  confined : ∀ key inst, pool.held? key = some inst → pool.Confined inst.number (· = key)

theorem ofCatalog_sound (catalog : StrategyCatalog) : (ofCatalog catalog).Sound where
  made name inst held := nomatch held
  confined key inst held :=
    match key, held with
    | none, held => by
      cases held
      exact ⟨Nat.zero_lt_one, fun other inst found _ =>
        match other, found with
        | none, _ => rfl⟩

theorem Sound.step_made {name : String} (sound : pool.Sound) (taken : StrategyStep)
    (held : (pool.step taken).held? (some name) = some inst) :
    (pool.step taken).catalog.factories.get? name = some (.ok inst.strategy) := by
  cases taken with
  | contains asked => exact sound.made name inst held
  | register asked factory =>
    rw [step, held?_register] at held
    split at held
    · cases held
    · rename_i apart
      rw [step, register, StrategyCatalog.register, Entries.get?_insert,
        if_neg fun same => apart (congrArg some same)]
      exact sound.made name inst held
  | resolve asked =>
    rw [catalog_step_resolve]
    have resolved := pool.resolution asked
    generalize pool.handsOut asked = answer, pool.step (.resolve asked) = next at resolved held
    cases resolved with
    | held known => exact sound.made name inst held
    | failed missing refused => exact sound.made name inst held
    | made missing built =>
      rw [held?_withMade] at held
      split at held
      · rename_i same
        cases held
        rw [← Option.some.inj same]
        exact StrategyCatalog.make_eq_ok_iff.mp built
      · exact sound.made name inst held

theorem Sound.step (sound : pool.Sound) (taken : StrategyStep) : (pool.step taken).Sound where
  made _ _ held := sound.step_made taken held
  confined key inst held := by
    rcases held?_step held with before | ⟨resolved, made, next⟩
    · exact (sound.confined key inst before).step taken
    · refine ⟨by rw [next, made]; exact Nat.lt_succ_self _, fun other found heldOther same => ?_⟩
      rcases held?_step heldOther with before | ⟨again, _⟩
      · -- the number is the next one, which nothing had before the step
        have older := (sound.confined other found before).taken
        exact absurd (same.trans made) (Nat.ne_of_lt older)
      · exact StrategyStep.resolve.inj (again.symm.trans resolved)

theorem Sound.after (sound : pool.Sound) (steps : List StrategyStep) :
    (pool.after steps).Sound := by
  induction steps generalizing pool with
  | nil => exact sound
  | cons taken rest ih => exact ih (sound.step taken)

/-- A pool hands out the strategies that its catalog alone makes. -/
theorem Sound.handsOut_strategy (sound : pool.Sound) (key : Option String) :
    (pool.handsOut key).map (·.strategy) = pool.catalog.resolve key := by
  cases key with
  | none => rfl
  | some name =>
    have resolved := pool.resolution (some name)
    generalize pool.handsOut (some name) = answer, pool.step (.resolve (some name)) = next at resolved ⊢
    cases resolved with
    | held known => exact (StrategyCatalog.make_eq_ok_iff.mpr (sound.made name _ known)).symm
    | made missing built => exact built.symm
    | failed missing refused => exact refused.symm

/-- A pool fails where its catalog does, whatever it has made before. -/
theorem Sound.handsOut_eq_error {cause : MappingError} (sound : pool.Sound) :
    pool.handsOut key = .error cause ↔ pool.catalog.resolve key = .error cause := by
  rw [← sound.handsOut_strategy key]
  cases pool.handsOut key <;> simp [Except.map]

/-! ### The catalog behind a history -/

theorem step_default (pool : StrategyPool) (taken : StrategyStep) :
    (pool.step taken).catalog.default = pool.catalog.default := by
  cases taken with
  | contains name => rfl
  | register name factory => rfl
  | resolve key => rw [catalog_step_resolve]

theorem after_default (pool : StrategyPool) (steps : List StrategyStep) :
    (pool.after steps).catalog.default = pool.catalog.default := by
  induction steps generalizing pool with
  | nil => rfl
  | cons taken rest ih => exact (ih _).trans (pool.step_default taken)

theorem get?_factories_step (pool : StrategyPool) (taken : StrategyStep) {name : String}
    {factory : StrategyFactory} :
    (pool.step taken).catalog.factories.get? name = some factory ↔
      taken = .register name factory ∨
        pool.catalog.factories.get? name = some factory ∧
          ∀ other, taken ≠ .register name other := by
  cases taken with
  | contains asked => simp [step]
  | resolve asked => simp [catalog_step_resolve]
  | register asked made =>
    rw [step, register, StrategyCatalog.register, Entries.get?_insert]
    by_cases same : asked = name <;> simp [same]

/-- The factory that a pool uses for a name is the one that was registered last. -/
theorem get?_factories_after (pool : StrategyPool) (steps : List StrategyStep) {name : String}
    {factory : StrategyFactory} :
    (pool.after steps).catalog.factories.get? name = some factory ↔
      pool.catalog.LatestFactory steps name factory := by
  induction steps generalizing pool with
  | nil => simp [after, StrategyCatalog.LatestFactory]
  | cons taken rest ih =>
    refine (ih (pool.step taken)).trans ?_
    rw [StrategyCatalog.LatestFactory, StrategyCatalog.LatestFactory, get?_factories_step]
    constructor
    · rintro (⟨earlier, later, rfl, last⟩ | ⟨rfl | ⟨held, apart⟩, last⟩)
      · exact .inl ⟨taken :: earlier, later, rfl, last⟩
      · exact .inl ⟨[], rest, rfl, last⟩
      · exact .inr ⟨held, fun other member => (List.mem_cons.mp member).elim
          (fun same => apart other same.symm) (last other)⟩
    · rintro (⟨earlier, later, split, last⟩ | ⟨held, last⟩)
      · rcases List.cons_eq_append_iff.mp split with ⟨_, met⟩ | ⟨before, _, met⟩
        · obtain ⟨rfl, rfl⟩ := List.cons.inj met
          exact .inr ⟨.inl rfl, last⟩
        · exact .inl ⟨before, later, met, last⟩
      · exact .inr ⟨.inr ⟨held, fun other same => last other (same ▸ List.mem_cons_self)⟩,
          fun other member => last other (List.mem_cons_of_mem _ member)⟩

theorem mem_factories_step (pool : StrategyPool) (taken : StrategyStep) {name : String} :
    name ∈ (pool.step taken).catalog.factories.names ↔
      name ∈ pool.catalog.factories.names ∨ ∃ factory, .register name factory = taken := by
  cases taken with
  | contains asked => simp [step]
  | resolve asked => simp [catalog_step_resolve]
  | register asked made =>
    rw [step, register, StrategyCatalog.register, Entries.names_insert]
    split <;> simp_all [eq_comm]

theorem mem_factories_after (pool : StrategyPool) (steps : List StrategyStep) {name : String} :
    name ∈ (pool.after steps).catalog.factories.names ↔ pool.catalog.Registered steps name := by
  induction steps generalizing pool with
  | nil => simp [after, StrategyCatalog.Registered]
  | cons taken rest ih =>
    refine (ih (pool.step taken)).trans ?_
    simp only [StrategyCatalog.Registered, mem_factories_step, List.mem_cons, exists_or, or_assoc]

/-! ### Two resolutions in a history -/

section Resolutions

variable {first second : StrategyInstance} {between : List StrategyStep}

/-- Between two resolutions of a name, only its registration makes room for another instance. -/
theorem same_instance {name : String} (found : pool.handsOut (some name) = .ok first)
    (again : (pool.after (.resolve (some name) :: between)).handsOut (some name) = .ok second)
    (others : ∀ factory, .register name factory ∉ between) : first = second := by
  have kept := held?_after (held?_step_resolve found) others
  exact Except.ok.inj ((handsOut_of_held? kept).symm.trans again)

theorem Sound.new_instance {name : String} {factory : StrategyFactory} (sound : pool.Sound)
    (found : pool.handsOut (some name) = .ok first)
    (again : (pool.after (.resolve (some name) :: between)).handsOut (some name) = .ok second)
    (registered : .register name factory ∈ between) : first.number ≠ second.number := by
  intro same
  have confined := (sound.step (.resolve (some name))).confined _ _ (held?_step_resolve found)
  obtain ⟨early, late, rfl⟩ := List.append_of_mem registered
  have retired := ((confined.after early).retired factory).after late
  rw [← after_append_cons] at retired
  exact retired.handsOut again same.symm

theorem Sound.keys_apart {other : Option String} (sound : pool.Sound)
    (found : pool.handsOut key = .ok first)
    (again : (pool.after (.resolve key :: between)).handsOut other = .ok second)
    (apart : key ≠ other) : first.number ≠ second.number := by
  intro same
  have confined := (sound.step (.resolve key)).confined _ _ (held?_step_resolve found)
  exact apart ((confined.after between).handsOut again same.symm).symm

end Resolutions

theorem step_resolve_of_error {cause : MappingError} (failed : pool.handsOut key = .error cause) :
    pool.step (.resolve key) = pool := by
  have resolved := pool.resolution key
  rw [failed] at resolved
  generalize pool.step (.resolve key) = next at resolved ⊢
  cases resolved
  rfl

/-- A name has one instance for each of its registrations, and shares it with no other key. It fails
exactly when it was never registered or its latest factory fails, and then leaves the pool as it was. -/
theorem one_instance_per_registration (catalog : StrategyCatalog) (history : List StrategyStep) :
    let pool := (ofCatalog catalog).after history
    pool.handsOut none = .ok ⟨0, catalog.default⟩ ∧
    (∀ name between first second, pool.handsOut (some name) = .ok first →
      (pool.after (.resolve (some name) :: between)).handsOut (some name) = .ok second →
      ((first.number = second.number ↔ ∀ factory, .register name factory ∉ between) ∧
        (first.number = second.number → first = second))) ∧
    (∀ key other between first second, key ≠ other → pool.handsOut key = .ok first →
      (pool.after (.resolve key :: between)).handsOut other = .ok second →
      first.number ≠ second.number) ∧
    (∀ name cause, pool.handsOut (some name) = .error cause ↔
      ¬ catalog.Registered history name ∧ cause = .strategyNotRegistered name ∨
      ∃ reason, catalog.LatestFactory history name (.error reason) ∧
        cause = .strategyFailed name reason) ∧
    (∀ name inst, pool.handsOut (some name) = .ok inst →
      catalog.LatestFactory history name (.ok inst.strategy)) ∧
    (∀ key cause, pool.handsOut key = .error cause →
      ∀ later, pool.after (.resolve key :: later) = pool.after later) ∧
    ∀ name, pool.contains name = true ↔ catalog.Registered history name := by
  intro pool
  have sound : pool.Sound := (ofCatalog_sound catalog).after history
  have registered (name : String) :
      name ∈ pool.catalog.factories.names ↔ catalog.Registered history name :=
    mem_factories_after _ history
  have latest (name : String) (factory : StrategyFactory) :
      pool.catalog.factories.get? name = some factory ↔
        catalog.LatestFactory history name factory :=
    get?_factories_after _ history
  refine ⟨?_, fun name between first second found again => ?_, fun key other between first second
    apart found again => sound.keys_apart found again apart, fun name cause => ?_,
    fun name inst found => ?_, fun key cause failed later => ?_, fun name => ?_⟩
  · have kept : pool.catalog.default = catalog.default := after_default _ history
    rw [← kept]
    rfl
  · have kept := same_instance found again
    have unregistered (same : first.number = second.number) (factory : StrategyFactory) :
        .register name factory ∉ between := fun member =>
      sound.new_instance found again member same
    exact ⟨⟨unregistered, fun others => by rw [kept others]⟩,
      fun same => kept (unregistered same)⟩
  · rw [sound.handsOut_eq_error, StrategyCatalog.resolve, StrategyCatalog.make_eq_error_iff, registered]
    simp only [latest]
  · have made := sound.handsOut_strategy (some name)
    rw [found] at made
    exact (latest name _).mp (StrategyCatalog.make_eq_ok_iff.mp made.symm)
  · exact congrArg (after · later) (step_resolve_of_error failed)
  · rw [contains, StrategyCatalog.contains, Entries.contains, Entries.get?_isSome, registered]

theorem standard_instance_replaced :
    let history : List StrategyStep := [.resolve (some "snake_case"),
      .register "broken" (.error "constructor threw"), .resolve (some "broken")]
    let pool := (ofCatalog .standard).after history
    ∃ first second third,
      pool.handsOut (some "snake_case") = .ok first ∧
      (pool.after [.resolve (some "snake_case"),
        .register "broken" (.ok LetterCase.upper.snake)]).handsOut (some "snake_case") = .ok second ∧
      (pool.after [.resolve (some "snake_case"),
        .register "snake_case" (.ok LetterCase.upper.snake)]).handsOut (some "snake_case") =
          .ok third ∧
      first.number = second.number ∧ first.number ≠ third.number ∧
      pool.handsOut (some "broken") = .error (.strategyFailed "broken" "constructor threw") ∧
      pool.handsOut (some "kebab") = .error (.strategyNotRegistered "kebab") := by
  intro history pool
  obtain ⟨-, once, -, fails, -⟩ := one_instance_per_registration .standard history
  have found : pool.handsOut (some "snake_case") = .ok ⟨1, LetterCase.lower.snake⟩ := rfl
  have kept : (pool.after [.resolve (some "snake_case"),
      .register "broken" (.ok LetterCase.upper.snake)]).handsOut (some "snake_case") =
        .ok ⟨1, LetterCase.lower.snake⟩ := rfl
  have made : (pool.after [.resolve (some "snake_case"),
      .register "snake_case" (.ok LetterCase.upper.snake)]).handsOut (some "snake_case") =
        .ok ⟨2, LetterCase.upper.snake⟩ := rfl
  refine ⟨_, _, _, found, kept, made, (once _ _ _ _ found kept).1.mpr (by simp),
    fun same => (once _ _ _ _ found made).1.mp same (.ok LetterCase.upper.snake) (by simp),
    (fails _ _).mpr (.inr ⟨_, .inl ⟨[.resolve (some "snake_case")], [.resolve (some "broken")], rfl,
      by simp⟩, rfl⟩), (fails _ _).mpr (.inl ⟨?_, rfl⟩)⟩
  simp [StrategyCatalog.Registered, StrategyCatalog.names_standard, history]

end StrategyPool

end EntityMapper
