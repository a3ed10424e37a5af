import WidgetFlow.Proofs.Widget.Store
import WidgetFlow.Behavior.Basic

/-!
# Instances without their revisions

A revision says when an instance last changed. Everything else that an operation makes of an
instance depends on this instance only: `Store.bare?` looks an instance up without its revision, and
one law for each write says what it makes of that.

## Main results

* `bare?_mutate`, `bare?_setProperty`: what a write makes of its instance.
* `Effect.bare?_apply`: effects come out alike wherever the instance is alike.
* `Owner.of_congr`: hooks do not see revisions.
-/

namespace WidgetFlow

/-- An instance without its revision. -/
def Instance.bare (i : Instance) : Instance := { i with revision := 0 }

/-- An instance after a property was written: the state of that name no longer hides it. -/
def Instance.put (i : Instance) (key : String) (v : Value) : Instance :=
  { i with properties := Dict.insert i.properties key v, state := Dict.erase i.state key }

namespace Store

variable {s t : Store} {id key : String} {change : Instance → Instance}

/-- What a store has under an id, without the revision. -/
def bare? (s : Store) (id : String) : Option Instance := (s.get? id).map (·.bare)

/-- Whether there is an instance does not depend on its revision. -/
theorem isSome_bare? : (s.bare? id).isSome = s.contains id := Option.isSome_map

/-- A change that does not look at the revision, seen without revisions. -/
theorem bare?_mutate (h : ∀ i : Instance, (change i).bare = change i.bare) :
    (s.mutate id change).2.bare? id = (s.bare? id).map change := by
  rw [bare?, get?_mutate, if_pos rfl, bare?, Option.map_map, Option.map_map]
  exact congrArg (Option.map · _) (funext h)

/-- An instance put into the store, seen without revisions. -/
theorem bare?_register (i : Instance) :
    (s.register i).bare? id = if i.id = id then some i.bare else s.bare? id := by
  rw [bare?, get?_register]
  split <;> rfl

/-- A written property leaves the other instances alone. -/
theorem get?_setProperty_of_ne {property : String} {v : Value} (h : id ≠ key) :
    (View.setProperty s id property v).2.get? key = s.get? key := by
  have hset : (s.setProperty id property v).2.get? key = s.get? key := get?_mutate_of_ne h
  rw [view_setProperty, ← hset, removeStateValue]
  split
  · rfl
  · exact get?_mutate_of_ne h

/-- A removed state, seen without revisions. -/
theorem bare?_removeStateValue {key : String} :
    (s.removeStateValue id key).2.bare? id =
      (s.bare? id).map fun i => { i with state := Dict.erase i.state key } := by
  rw [removeStateValue, stateValue]
  cases hi : s.get? id with
  | none => rw [Option.bind_none, bare?, hi, Option.map_none, Option.map_none]
  | some i =>
      rw [Option.bind_some]
      cases hv : Dict.get? i.state key with
      | none =>
          rw [bare?, hi, Option.map_some, Option.map_some]
          exact congrArg some (by rw [Instance.bare, Dict.erase_eq_self hv])
      | some w => exact bare?_mutate fun _ => rfl

/-- A written property, seen without revisions. -/
theorem bare?_setProperty {property : String} {v : Value} :
    (View.setProperty s id property v).2.bare? id = (s.bare? id).map (·.put property v) := by
  have hset : (s.setProperty id property v).2.bare? id = (s.bare? id).map fun i =>
      { i with properties := Dict.insert i.properties property v } := bare?_mutate fun _ => rfl
  rw [view_setProperty]
  exact bare?_removeStateValue.trans (by rw [hset, Option.map_map]; rfl)

end Store

/-! ### Effects -/

namespace Effect

variable {s t : Store} {id key : String}

/-- An effect leaves the other instances alone. -/
theorem get?_apply_of_ne (effect : Effect) (h : id ≠ key) :
    (Effect.apply id s effect).get? key = s.get? key := by
  cases effect with
  | setProperty property v => exact Store.get?_setProperty_of_ne h
  | setStyle property v => exact Store.get?_mutate_of_ne h
  | addClass name => exact Store.get?_mutate_of_ne h
  | removeClass name => exact Store.get?_mutate_of_ne h
  | setHidden hidden => exact Store.get?_mutate_of_ne h
  | emit point v => rfl

/-- What an effect makes of an instance depends on this instance only. -/
theorem bare?_apply (effect : Effect) (h : t.bare? id = s.bare? id) :
    (Effect.apply id t effect).bare? id = (Effect.apply id s effect).bare? id := by
  have hmutate : ∀ change : Instance → Instance, (∀ i : Instance, (change i).bare = change i.bare) →
      (t.mutate id change).2.bare? id = (s.mutate id change).2.bare? id := fun change hchange => by
    rw [Store.bare?_mutate hchange, Store.bare?_mutate hchange, h]
  cases effect with
  | setProperty property v =>
      exact Store.bare?_setProperty.trans (by rw [h]; exact Store.bare?_setProperty.symm)
  | setStyle property v => exact hmutate _ fun _ => rfl
  | addClass name => exact hmutate _ fun _ => rfl
  | removeClass name => exact hmutate _ fun _ => rfl
  | setHidden hidden => exact hmutate _ fun _ => rfl
  | emit point v => exact h

/-- Effects leave the other instances alone. -/
theorem get?_foldl_apply_of_ne (effects : List Effect) (h : id ≠ key) :
    (effects.foldl (Effect.apply id) s).get? key = s.get? key :=
  List.foldlRecOn (motive := fun t : Store => t.get? key = s.get? key) effects _ rfl
    fun _ ht effect _ => (effect.get?_apply_of_ne h).trans ht

/-- What effects make of an instance depends on this instance only. -/
theorem bare?_foldl_apply (effects : List Effect) (h : t.bare? id = s.bare? id) :
    (effects.foldl (Effect.apply id) t).bare? id =
      (effects.foldl (Effect.apply id) s).bare? id := by
  induction effects generalizing s t with
  | nil => exact h
  | cons effect rest ih => exact ih (effect.bare?_apply h)

end Effect

/-- What a hook sees of its owner does not depend on revisions. -/
theorem Owner.of_congr {s t : Store} {id : String} (h : t.bare? id = s.bare? id) :
    Owner.of t id = Owner.of s id := by
  have hbare : ∀ u : Store, Owner.of u id = ⟨id,
      fun key => (u.bare? id).bind (·.effective key),
      ((u.bare? id).map (·.presentation.hidden)).getD false⟩ := fun u => by
    rw [Store.bare?]
    rw [Owner.of]
    congr 1
    · funext key
      change (u.get? id).bind _ = _
      cases u.get? id <;> rfl
    · change ((u.get? id).map _).getD false = _
      cases u.get? id <;> rfl
  rw [hbare, hbare, h]

end WidgetFlow
