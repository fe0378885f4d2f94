import EntityMapper.Extraction.Table
import EntityMapper.Proofs.Outcome
import EntityMapper.Proofs.Updates
import Mathlib.Data.List.Induction

/-!
# Scopes as overlays of their layers

Scopes come from the empty one by chains of steps, each of which sets a value or enters a new layer. A
layer has what the chain wrote between one entering and the next (`layers_ofChain`). The nearest layer
with a name decides, whatever the kind of its value (`get_eq_some`, `get_eq_none`), and so does one flat
map that all layers are written into, from the outside in (`lookup_ofChain`). Of scopes that branch off
each other each is that of its own chain, and those made first stay as they are (`family_eq`,
`grown_prefix`). The scopes of tables are of this kind (`tableScope_overlays`).
-/
namespace EntityMapper

/-! ### Layers of entries -/

namespace Entries

variable {α : Type}

/-- The map below with all writes made into it, so that under each name the last one counts. -/
def overwrite (below : String → Option α) (writes : Entries α) : String → Option α :=
  updateAll (·.1) (fun write => some write.2) below writes

/-- One flat map of all layers: from the outermost one on, each is written over those before it. -/
def overlay (layers : List (Entries α)) : String → Option α :=
  layers.foldl overwrite fun _ => none

/-- Of the layers, the innermost one first, the nearest that has the name holds the value under it. -/
def Nearest (layers : List (Entries α)) (name : String) (value : α) : Prop :=
  ∃ inner layer outer, layers = inner ++ layer :: outer ∧
    (∀ other ∈ inner, name ∉ other.names) ∧ layer.get? name = some value

theorem get?_insert_eq_update (entries : Entries α) (name : String) (value : α) :
    get? (Entries.insert name value entries) = Function.update entries.get? name (some value) := by
  funext asked
  rw [get?_insert, Function.update_apply]
  exact if_congr eq_comm rfl rfl

/-- Where nothing was written the map below answers. -/
theorem overwrite_eq_or (below : String → Option α) (writes : Entries α) (name : String) :
    overwrite below writes name = (overwrite (fun _ => none) writes name).or (below name) := by
  induction writes using List.reverseRecOn with
  | nil => rfl
  | append_singleton writes write ih =>
    simp only [overwrite, updateAll, List.foldl_concat, Function.update_apply] at ih ⊢
    split
    · rfl
    · exact ih

theorem overlay_eq_findSome? (layers : List (Entries α)) (name : String) :
    overlay layers name =
      (layers.reverse.map (overwrite fun _ => none)).findSome? (· name) := by
  induction layers using List.reverseRecOn with
  | nil => rfl
  | append_singleton layers layer ih =>
    rw [overlay, List.foldl_concat, ← overlay, overwrite_eq_or, ih, List.reverse_concat,
      List.map_cons, List.findSome?_cons]
    cases overwrite (fun _ => none) layer name <;> rfl

theorem nearest_iff (layers : List (Entries α)) (name : String) (value : α) :
    Nearest layers name value ↔ layers.findSome? (·.get? name) = some value := by
  simp only [List.findSome?_eq_some_iff, get?_eq_none, Nearest]
  exact exists₃_congr fun _ _ _ => and_congr_right fun _ => and_comm

end Entries

/-! ### Chains of steps -/

/-- One step from a scope to the next. -/
inductive ScopeStep (κ : Type) [ValueKind κ] where
  | set (key : SettingKey κ) (value : ValueKind.Carrier key.kind)
  | enter

variable {κ : Type} [ValueKind κ]

namespace ScopeStep

def enters : ScopeStep κ → Bool
  | set _ _ => false
  | enter => true

/-- The name that is set, with what is set under it. -/
def write? : ScopeStep κ → Option (String × Setting κ)
  | set key value => some (key.name, ⟨key.kind, value⟩)
  | enter => none

/-- What a chain writes between one entering and the next, in the order written; the outermost layer
comes first. -/
def writtenLayers (chain : List (ScopeStep κ)) : List (Entries (Setting κ)) :=
  (chain.splitOnP enters).map (·.filterMap write?)

theorem writtenLayers_enter (rest : List (ScopeStep κ)) :
    writtenLayers (enter :: rest) = [] :: writtenLayers rest := by
  rw [writtenLayers, List.splitOnP_cons_eq_if_modifyHead]
  rfl

/-- A value that is set first is the first write of the outermost layer. -/
theorem writtenLayers_set {rest : List (ScopeStep κ)} {first : Entries (Setting κ)}
    {inner : List (Entries (Setting κ))} (written : writtenLayers rest = first :: inner)
    (key : SettingKey κ) (value : ValueKind.Carrier key.kind) :
    writtenLayers (set key value :: rest) =
      ((key.name, ⟨key.kind, value⟩) :: first) :: inner := by
  obtain ⟨head, tail, cut, rfl, rfl⟩ := List.map_eq_cons_iff.mp written
  rw [writtenLayers, List.splitOnP_cons_eq_if_modifyHead, cut]
  rfl

theorem exists_writtenLayers (chain : List (ScopeStep κ)) :
    ∃ first inner, writtenLayers chain = first :: inner := by
  refine List.exists_cons_of_ne_nil fun empty => ?_
  exact List.splitOnP_ne_nil _ _ (List.map_eq_nil_iff.mp empty)

end ScopeStep

open ScopeStep (writtenLayers)

namespace Scope

theorem lookup_eq_some {scope : Scope κ} {name : String} {setting : Setting κ} :
    scope.lookup name = some setting ↔ Entries.Nearest scope.layers name setting :=
  (Entries.nearest_iff _ _ _).symm

theorem get_eq_some [DecidableEq κ] {scope : Scope κ} {key : SettingKey κ}
    {value : ValueKind.Carrier key.kind} :
    scope.get key = some value ↔ Entries.Nearest scope.layers key.name ⟨key.kind, value⟩ := by
  simp only [get, Option.bind_eq_some_iff, Setting.as?_eq_some, exists_eq_right, lookup_eq_some]

/-- There is no answer where no layer has the name, and none from behind a value of another kind. -/
theorem get_eq_none [DecidableEq κ] {scope : Scope κ} {key : SettingKey κ} :
    scope.get key = none ↔
      ∀ setting, Entries.Nearest scope.layers key.name setting → setting.kind ≠ key.kind := by
  simp only [get, Option.bind_eq_none_iff, Setting.as?_eq_none, lookup_eq_some]

def derive (scope : Scope κ) : ScopeStep κ → Scope κ
  | .set key value => scope.set key value
  | .enter => scope.enter

def deriveAll (scope : Scope κ) (chain : List (ScopeStep κ)) : Scope κ :=
  chain.foldl derive scope

/-- The scope that a chain makes of the empty one. -/
def ofChain (chain : List (ScopeStep κ)) : Scope κ :=
  empty.deriveAll chain

theorem ofChain_append (chain more : List (ScopeStep κ)) :
    ofChain (chain ++ more) = (ofChain chain).deriveAll more :=
  List.foldl_append

/-- What a chain writes first goes into the nearest layer, all else into layers inside it. -/
theorem layers_deriveAll (scope : Scope κ) {chain : List (ScopeStep κ)}
    {first : Entries (Setting κ)} {inner : List (Entries (Setting κ))}
    (written : writtenLayers chain = first :: inner) :
    (scope.deriveAll chain).layers.map Entries.get? =
      (inner.map (Entries.overwrite fun _ => none)).reverse ++
        Entries.overwrite scope.nearest.get? first :: scope.outer.map Entries.get? := by
  induction chain generalizing scope first inner with
  | nil =>
    cases written
    rfl
  | cons step rest ih =>
    obtain ⟨head, tail, writtenRest⟩ := ScopeStep.exists_writtenLayers rest
    have derived := ih (scope.derive step) writtenRest
    cases step with
    | enter =>
      rw [ScopeStep.writtenLayers_enter, writtenRest] at written
      cases written
      rw [List.map_cons, List.reverse_cons, List.append_assoc]
      exact derived
    | set key value =>
      rw [ScopeStep.writtenLayers_set writtenRest] at written
      cases written
      have nearest : (scope.derive (.set key value)).nearest.get? =
          Function.update scope.nearest.get? key.name (some ⟨key.kind, value⟩) :=
        Entries.get?_insert_eq_update _ _ _
      rw [nearest] at derived
      exact derived

/-- Each layer holds what the chain wrote into it. -/
theorem layers_ofChain (chain : List (ScopeStep κ)) :
    (ofChain chain).layers.map Entries.get? =
      (writtenLayers chain).reverse.map (Entries.overwrite fun _ => none) := by
  obtain ⟨first, inner, written⟩ := ScopeStep.exists_writtenLayers chain
  rw [ofChain, layers_deriveAll empty written, written, List.reverse_cons, List.map_append,
    List.map_reverse]
  rfl

theorem lookup_ofChain (chain : List (ScopeStep κ)) (name : String) :
    (ofChain chain).lookup name = Entries.overlay (writtenLayers chain) name := by
  have mapped : (ofChain chain).lookup name =
      ((ofChain chain).layers.map Entries.get?).findSome? (· name) := by
    rw [List.findSome?_map]
    rfl
  rw [mapped, layers_ofChain, Entries.overlay_eq_findSome?]

/-- What a scope answers whose layers were written so, the outermost layer first. -/
structure Overlays [DecidableEq κ] (scope : Scope κ) (written : List (Entries (Setting κ))) :
    Prop where
  /-- A layer has the value written last into it under each name. -/
  layers : scope.layers.map Entries.get? = written.reverse.map (Entries.overwrite fun _ => none)
  /-- The nearest layer with the name answers, if its value is of the kind asked for. -/
  answers : ∀ key value,
    scope.get key = some value ↔ Entries.Nearest scope.layers key.name ⟨key.kind, value⟩
  /-- Else there is no answer: a value of another kind hides all that is behind it. -/
  silent : ∀ key, scope.get key = none ↔
    ∀ setting, Entries.Nearest scope.layers key.name setting → setting.kind ≠ key.kind
  /-- One flat map of all layers answers alike. -/
  flat : ∀ key, scope.get key = (Entries.overlay written key.name).bind (·.as? key.kind)

theorem ofChain_overlays [DecidableEq κ] (chain : List (ScopeStep κ)) :
    (ofChain chain).Overlays (writtenLayers chain) where
  layers := layers_ofChain chain
  answers _ _ := get_eq_some
  silent _ := get_eq_none
  flat key := by rw [get, lookup_ofChain]

end Scope

/-! ### Scopes derived from each other -/

/-- A step taken from what was made under the number; numbers count from zero. -/
structure ScopeBranch (κ : Type) [ValueKind κ] where
  source : Nat
  step : ScopeStep κ

namespace ScopeBranch

variable {α β : Type}

/-- All that the branches make, in order, from the origin on. A number under which nothing was made
stands for the origin. -/
def grown (derive : α → ScopeStep κ → α) (origin : α) (branches : List (ScopeBranch κ)) : List α :=
  branches.foldl
    (fun made branch => made ++ [derive (made[branch.source]?.getD origin) branch.step]) [origin]

/-- The scopes that branch off the empty one and off each other. -/
def family (branches : List (ScopeBranch κ)) : List (Scope κ) :=
  grown Scope.derive .empty branches

/-- The chain of each of the scopes: that of the scope it branches off, and one step more. -/
def lineages (branches : List (ScopeBranch κ)) : List (List (ScopeStep κ)) :=
  grown (fun chain step => chain ++ [step]) [] branches

theorem grown_concat (derive : α → ScopeStep κ → α) (origin : α) (branches : List (ScopeBranch κ))
    (branch : ScopeBranch κ) :
    grown derive origin (branches ++ [branch]) =
      grown derive origin branches ++
        [derive ((grown derive origin branches)[branch.source]?.getD origin) branch.step] :=
  List.foldl_concat _ _ _ _

/-- Whatever is made later, what was made first stays. -/
theorem grown_prefix (derive : α → ScopeStep κ → α) (origin : α)
    (branches later : List (ScopeBranch κ)) :
    grown derive origin branches <+: grown derive origin (branches ++ later) := by
  induction later using List.reverseRecOn with
  | nil => simp
  | append_singleton later branch ih =>
    rw [← List.append_assoc, grown_concat]
    exact ih.trans (List.prefix_append _ _)

theorem map_grown {derive : α → ScopeStep κ → α} {deriveImage : β → ScopeStep κ → β} {f : α → β}
    (image : ∀ a step, f (derive a step) = deriveImage (f a) step) (origin : α)
    (branches : List (ScopeBranch κ)) :
    (grown derive origin branches).map f = grown deriveImage (f origin) branches := by
  induction branches using List.reverseRecOn with
  | nil => rfl
  | append_singleton branches branch ih =>
    rw [grown_concat, grown_concat, List.map_append, List.map_singleton, image, ← ih,
      List.getElem?_map, Option.getD_map]

theorem family_eq (branches : List (ScopeBranch κ)) :
    family branches = (lineages branches).map Scope.ofChain :=
  (map_grown (fun chain step => Scope.ofChain_append chain [step]) [] branches).symm

end ScopeBranch

open ScopeBranch (family lineages)

/-- A chain of steps, whatever kinds of values it sets, leads to the overlay of the layers it wrote,
and entering changes no answer and adds one layer. Of scopes that branch off each other each is that of
its own chain, and it stays so whatever branches off it or off others later. -/
theorem scopes_overlay_layers {κ : Type} [ValueKind κ] [DecidableEq κ] (chain : List (ScopeStep κ))
    (branches later : List (ScopeBranch κ)) :
    (Scope.ofChain chain).Overlays (writtenLayers chain) ∧
      (∀ key, (Scope.ofChain chain).enter.get key = (Scope.ofChain chain).get key) ∧
      (Scope.ofChain chain).enter.depth = (Scope.ofChain chain).depth + 1 ∧
      (lineages branches).map Scope.ofChain <+: family (branches ++ later) := by
  refine ⟨Scope.ofChain_overlays chain, fun _ => Scope.get_enter _, rfl, ?_⟩
  rw [← ScopeBranch.family_eq]
  exact ScopeBranch.grown_prefix _ _ branches later

/-- A number hides the text behind it. -/
example :
    (Scope.ofChain [.set .dialect "POSTGRES", .enter, .set ⟨"dialect", .number⟩ (7 : Int)]).get
      .dialect = none :=
  rfl

/-! ### Scopes of tables -/

namespace Mapping

variable {mapping : Mapping} {base : Scope}

theorem baseScope_derived (based : mapping.baseScope = .ok base) :
    ∃ chain, base = .ofChain chain ∧ .enter ∉ chain := by
  obtain ⟨strategy, _, returned⟩ := bind_eq_ok.mp based
  cases returned
  let named : List (ScopeStep SettingKind) :=
    [.set .database mapping.databaseName, .set .dialect mapping.dialect, .set .strategy strategy]
  cases mapping.package with
  | none => exact ⟨named, rfl, by simp [named]⟩
  | some package => exact ⟨named ++ [.set .package package], rfl, by simp [named]⟩

theorem tableScope_derived {decl : ClassDeclaration} {options : TableOptions} {parent : Scope}
    {placed : TableScope} (found : mapping.tableScope decl options parent = .ok placed) :
    placed.scope = parent.deriveAll [.enter, .set .strategy placed.strategy,
      .set .schema placed.schema, .set .tableName placed.name] := by
  simp only [tableScope, bind_eq_ok, pure_eq_ok] at found
  obtain ⟨schema, _, strategy, _, rfl⟩ := found
  rfl

/-- All tables share the layer of the base, and each has one of its own inside it. -/
theorem tableScope_overlays (based : mapping.baseScope = .ok base) :
    ∃ shared, ∀ {decl options placed}, mapping.tableScope decl options base = .ok placed →
      placed.scope.Overlays [shared, [(SettingKey.strategy.name, ⟨.strategy, placed.strategy⟩),
        (SettingKey.schema.name, ⟨.schema, placed.schema⟩),
        (SettingKey.tableName.name, ⟨.text, placed.name⟩)]] := by
  obtain ⟨chain, rfl, unentered⟩ := baseScope_derived based
  have single : chain.splitOnP ScopeStep.enters = [chain] :=
    List.splitOnP_eq_singleton fun step member =>
      match step, member with
      | .set _ _, _ => rfl
      | .enter, member => absurd member unentered
  refine ⟨chain.filterMap ScopeStep.write?, fun {decl options placed} found => ?_⟩
  have overlaid := Scope.ofChain_overlays (chain ++ [.enter, .set .strategy placed.strategy,
    .set .schema placed.schema, .set .tableName placed.name])
  rw [Scope.ofChain_append, ← tableScope_derived found, writtenLayers,
    List.splitOnP_append_cons _ _ rfl, single] at overlaid
  exact overlaid

end Mapping

end EntityMapper
