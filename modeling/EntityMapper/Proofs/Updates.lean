import Mathlib.Data.List.Nodup
import Mathlib.Logic.Function.Basic

/-!
# Functions changed at several places

A function changed once for each item of a list, at the item's key. It stays as it was elsewhere
(`updateAll_of_not_mem`), and where the keys differ each of them has the value of its item
(`updateAll_of_mem`).
-/
namespace EntityMapper

variable {ι κ α : Type} [DecidableEq κ] {key : ι → κ} {value : ι → α} {f : κ → α} {items : List ι}

/-- Changes a function at the key of each item, one after the other. -/
def updateAll (key : ι → κ) (value : ι → α) (f : κ → α) (items : List ι) : κ → α :=
  items.foldl (fun changed item => Function.update changed (key item) (value item)) f

@[simp] theorem updateAll_nil : updateAll key value f [] = f := rfl

@[simp] theorem updateAll_cons (item : ι) (rest : List ι) :
    updateAll key value f (item :: rest) =
      updateAll key value (Function.update f (key item) (value item)) rest := rfl

theorem updateAll_of_not_mem {other : κ} (absent : other ∉ items.map key) :
    updateAll key value f items other = f other := by
  induction items generalizing f with
  | nil => rfl
  | cons item rest ih =>
    obtain ⟨own, others⟩ := not_or.mp (List.mem_cons.not.mp absent)
    rw [updateAll_cons, ih others, Function.update_of_ne own]

theorem updateAll_of_mem (distinct : (items.map key).Nodup) {item : ι} (member : item ∈ items) :
    updateAll key value f items (key item) = value item := by
  induction items generalizing f with
  | nil => cases member
  | cons first rest ih =>
    obtain ⟨absent, others⟩ := List.nodup_cons.mp distinct
    rw [updateAll_cons]
    cases member with
    | head =>
      -- No later item has the key of the first one.
      rw [updateAll_of_not_mem absent, Function.update_self]
    | tail _ later => exact ih others later

/-- Nothing changes where every key has the value of its item already. -/
theorem updateAll_eq_self (held : ∀ item ∈ items, f (key item) = value item) :
    updateAll key value f items = f := by
  induction items with
  | nil => rfl
  | cons item rest ih =>
    obtain ⟨own, others⟩ := List.forall_mem_cons.mp held
    rw [updateAll_cons, ← own, Function.update_eq_self]
    exact ih others

end EntityMapper
