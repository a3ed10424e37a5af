import WidgetFlow.Proofs.Widget.Store

/-!
# Writing and reading effective properties

The effective property of an instance is its state under the key, or else the property that it was
given. Writing it through a view writes the property and drops the state that would hide it. This
module says what the writes of a store do to the effective properties: one of them is set, and all
others are as before.

A state has to be a dictionary for this, that is, no key may occur twice in it: of two entries of
one key only the first would be dropped. `Store.Tidy` says so, and every write keeps it.

## Main results

* `property_setProperty_self`: what was written to a property of an instance is read back.
* `property_setProperty_of_ne`, `property_setStateValue_of_ne`, `property_present`: no other
  property changes.
* `Tidy.setProperty`, `Tidy.setStateValue`, `Tidy.present`: states stay dictionaries.
-/

namespace WidgetFlow.Store

variable {s : Store} {id id' key key' : String} {v : Value} {change : Instance → Instance}

/-- The states of the instances are dictionaries. -/
def Tidy (s : Store) : Prop := ∀ id i, s.get? id = some i → Dict.Sorted i.state

/-! ### States stay dictionaries -/

/-- A store stays tidy under a change that keeps states dictionaries. -/
theorem Tidy.mutate (h : s.Tidy)
    (hchange : ∀ i, Dict.Sorted i.state → Dict.Sorted (change i).state) :
    (s.mutate id change).2.Tidy := by
  intro key j hj
  rw [get?_mutate] at hj
  split at hj
  · obtain ⟨i, hi, rfl⟩ := Option.map_eq_some_iff.mp hj
    exact hchange i (h id i hi)
  · exact h key j hj

/-- A store stays tidy when the state under a key is written. -/
theorem Tidy.setStateValue (h : s.Tidy) : (s.setStateValue id key v).2.Tidy :=
  h.mutate fun _ hi => hi.insert

/-- A store stays tidy when the state under a key is removed. -/
theorem Tidy.removeStateValue (h : s.Tidy) : (s.removeStateValue id key).2.Tidy := by
  rw [Store.removeStateValue]
  split
  · exact h
  · exact h.mutate fun _ hi => hi.erase

/-- A store stays tidy when an instance is presented differently. -/
theorem Tidy.present (h : s.Tidy) {change : Presentation → Presentation} :
    (s.present id change).2.Tidy :=
  h.mutate fun _ hi => hi

/-- A store stays tidy when a property is given. -/
theorem Tidy.give (h : s.Tidy) : (s.setProperty id key v).2.Tidy :=
  h.mutate fun _ hi => hi

/-- A store stays tidy when an effective property is written. -/
theorem Tidy.setProperty (h : s.Tidy) : (View.setProperty s id key v).2.Tidy := by
  rw [view_setProperty]
  exact h.give.removeStateValue

/-! ### Properties that stay -/

/-- A change that keeps an effective property of every instance keeps it in the store. -/
theorem property_mutate (h : ∀ i, id = id' → (change i).effective key' = i.effective key') :
    View.property (s.mutate id change).2 id' key' = View.property s id' key' := by
  change ((s.mutate id change).2.get? id').bind _ = (s.get? id').bind _
  rw [get?_mutate]
  split
  · next hid =>
      subst hid
      cases s.get? id with
      | none => rfl
      | some i => exact h i rfl
  · rfl

/-- Writing the state under a key keeps the properties of other keys and of other instances. -/
theorem property_setStateValue_of_ne (h : id = id' → key ≠ key') :
    View.property (s.setStateValue id key v).2 id' key' = View.property s id' key' := by
  refine property_mutate fun i hid => ?_
  rw [Instance.effective, Instance.effective, Dict.get?_insert_of_ne (h hid)]

/-- Removing the state under a key keeps the properties of other keys and of other instances. -/
theorem property_removeStateValue_of_ne (h : id = id' → key ≠ key') :
    View.property (s.removeStateValue id key).2 id' key' = View.property s id' key' := by
  rw [removeStateValue]
  split
  · rfl
  · refine property_mutate fun i hid => ?_
    rw [Instance.effective, Instance.effective, Dict.get?_erase_of_ne (h hid)]

/-- Writing a property keeps the properties of other keys and of other instances. -/
theorem property_setProperty_of_ne (h : id = id' → key ≠ key') :
    View.property (View.setProperty s id key v).2 id' key' = View.property s id' key' := by
  rw [view_setProperty, property_removeStateValue_of_ne h]
  refine property_mutate fun i hid => ?_
  rw [Instance.effective, Instance.effective, Dict.get?_insert_of_ne (h hid)]

/-- How instances are presented does not matter to properties. -/
theorem property_present {change : Presentation → Presentation} :
    View.property (s.present id change).2 id' key' = View.property s id' key' :=
  property_mutate fun _ _ => rfl

/-! ### The property that is written -/

/-- After the state under a key is removed, the property that the instance was given is the
effective one. -/
theorem property_removeStateValue_self (h : s.Tidy) :
    View.property (s.removeStateValue id key).2 id key = s.property id key := by
  change ((s.removeStateValue id key).2.get? id).bind _ = (s.get? id).bind _
  cases hi : s.get? id with
  | none =>
      have hstate : s.stateValue id key = none := by
        rw [stateValue, hi]
        rfl
      rw [removeStateValue, hstate, hi]
      rfl
  | some i =>
      have hstate : s.stateValue id key = Dict.get? i.state key := by
        rw [stateValue, hi]
        rfl
      rw [removeStateValue, hstate]
      cases hv : Dict.get? i.state key with
      | none =>
          rw [hi]
          change (Dict.get? i.state key).orElse _ = Dict.get? i.properties key
          rw [hv]
          rfl
      | some w =>
          rw [get?_mutate, if_pos rfl, hi]
          change (Dict.get? (Dict.erase i.state key) key).orElse _ = Dict.get? i.properties key
          rw [(h id i hi).get?_erase_self]
          rfl

/-- What was written to a property of an instance is read back. -/
theorem property_setProperty_self (h : s.Tidy) (hid : s.contains id = true) :
    View.property (View.setProperty s id key v).2 id key = some v := by
  obtain ⟨i, hi⟩ := contains_iff.mp hid
  rw [view_setProperty, property_removeStateValue_self h.give, property, setProperty, get?_mutate,
    if_pos rfl, hi]
  exact Dict.get?_insert_self

end WidgetFlow.Store
