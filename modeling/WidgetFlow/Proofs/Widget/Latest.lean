import WidgetFlow.Proofs.Flow.Propagation
import WidgetFlow.Proofs.Value.Merge
import WidgetFlow.Proofs.Widget.Property
import WidgetFlow.Proofs.Widget.Revision
import WidgetFlow.Screen.Render

/-!
# Readers see the last write

An effective property stands in one of two dictionaries: in the state if a connection delivered it
or it was sent from outside, and in the properties if it was written through a view, which then has
to drop the state of that name. Three readers put the two together, each in its own way: a look-up of
one property, the listing of all of them, and the context that an instance is rendered from. This
module says that what counts is the last write, whichever it was, and that the readers agree.

## Conventions

`StoreOp.value?` is what an operation writes to an effective property, and an operation that
`Spares` it is about another property, another instance or how something is presented. A write of
null is a write like any other. The dictionaries of a `Neat` store are sorted, as far as they are
read here; every operation keeps a store neat.

## Main results

* `property_perform`: what one operation does to an effective property.
* `Neat.run`: a neat store stays so.
* `property_propagate`: after a propagation a point has the value that was delivered there last.
* `latest_write`: **the last write wins, and all readers agree.**
-/

namespace WidgetFlow

variable {id key : String} {v x : Value}

/-! ### Neat stores -/

/-- The properties and the state of an instance are dictionaries. -/
structure Instance.Neat (i : Instance) : Prop where
  properties : Dict.Sorted i.properties
  state : Dict.Sorted i.state

/-- What an update brings for the properties and the state is a dictionary. -/
structure InstanceUpdate.Neat (u : InstanceUpdate) : Prop where
  properties : ∀ given ∈ u.properties, Dict.Sorted given
  state : ∀ given ∈ u.state, Dict.Sorted given

/-- The entries of a store are in order, and its instances are neat. -/
structure Store.Neat (s : Store) : Prop extends Store.Indexed s where
  entries : ∀ {id i}, s.get? id = some i → i.Neat

/-- What an operation brings into a store is neat. -/
def StoreOp.Neat : StoreOp → Prop
  | .register i => i.Neat
  | .write _ (.update u) => u.Neat
  | _ => True

/-! ### Writes of one effective property -/

/-- The value that a write puts under an effective property. -/
def StoreWrite.value? (key : String) : StoreWrite → Option Value
  | .give key' v => if key' = key then some v else none
  | .setStateValue key' v => if key' = key then some v else none
  | _ => none

/-- A write that has nothing to do with an effective property. -/
def StoreWrite.Spares (key : String) : StoreWrite → Prop
  | .update u => u.properties = none ∧ ∀ given ∈ u.state, key ∉ Dict.keys given
  | .setProperty key' _ => key' ≠ key
  | .give key' _ => key' ≠ key
  | .setStateValue key' _ => key' ≠ key
  | .removeStateValue key' => key' ≠ key
  | .setStyle _ _ | .addClass _ | .removeClass _ | .setHidden _ => True

namespace StoreOp

/-- The value that an operation puts under an effective property of an instance. -/
def value? (id key : String) : StoreOp → Option Value
  | .write id' w => if id' = id then w.value? key else none
  | _ => none

/-- An operation that has nothing to do with an effective property of an instance. -/
def Spares (id key : String) : StoreOp → Prop
  | .register i => i.id ≠ id
  | .write id' w => id' = id → w.Spares key
  | .remove id' => id' ≠ id
  | .clear => False

/-- An operation that spares a property of an instance keeps the instance. -/
theorem Spares.replaces {op : StoreOp} (h : op.Spares id key) : op.replaces id = false := by
  cases op with
  | register i => exact decide_eq_false h
  | write id' w => rfl
  | remove id' => exact decide_eq_false h
  | clear => exact h.elim

/-- An operation that writes to an instance keeps the instance. -/
theorem replaces_of_value? {op : StoreOp} (h : op.value? id key = some v) :
    op.replaces id = false := by
  cases op with
  | write id' w => rfl
  | _ => exact nomatch h

end StoreOp

namespace Delivery

/-- The write that a delivery is to the store. -/
def write (d : Delivery) : StoreOp :=
  .write d.target.component (.setStateValue d.target.point d.value)

/-- A delivery writes to the effective property of its target. -/
theorem value?_write (d : Delivery) (target : Endpoint) :
    d.write.value? target.component target.point =
      if d.target = target then some d.value else none := by
  obtain ⟨component, point⟩ := target
  obtain ⟨id, ⟨component', point'⟩, v⟩ := d
  simp only [write, StoreOp.value?, StoreWrite.value?, Endpoint.mk.injEq, ite_and]

/-- A delivery writes to an effective property, or it spares it. -/
theorem write_cases (d : Delivery) (target : Endpoint) :
    (d.write.value? target.component target.point).isSome = true ∨
      d.write.Spares target.component target.point := by
  by_cases h : d.target = target
  · left
    rw [value?_write, if_pos h]
    rfl
  · right
    exact fun hcomponent hpoint => h (congrArg₂ Endpoint.mk hcomponent hpoint)

end Delivery

/-- The value of the last delivery at a point is the last that is written there. -/
theorem lastTo_eq_getLast? (target : Endpoint) (ds : List Delivery) :
    lastTo target ds = ((ds.map (·.write)).filterMap
      (·.value? target.component target.point)).getLast? := by
  rw [lastTo, List.filterMap_map, List.getLast?_filterMap]
  induction ds.reverse with
  | nil => rfl
  | cons d rest ih =>
      rw [List.find?_cons, List.findSome?_cons, Function.comp_apply, Delivery.value?_write, ← ih]
      by_cases h : d.target = target <;> simp [h]

namespace Store

variable {s t : Store} {op : StoreOp} {ops : List StoreOp} {change : Instance → Instance}

/-! ### Stores stay neat -/

/-- The empty store is neat. -/
theorem Neat.empty : ({} : Store).Neat := ⟨.empty, fun h => nomatch h⟩

/-- The states of a neat store are dictionaries. -/
theorem Neat.tidy (h : s.Neat) : s.Tidy := fun _ _ hi => (h.entries hi).state

/-- A neat store stays so under changes that keep instances neat. -/
theorem Neat.mutate (h : s.Neat) (hid : ∀ i, (change i).id = i.id)
    (hchange : ∀ i : Instance, i.Neat → (change i).Neat) : (s.mutate id change).2.Neat where
  toIndexed := h.toIndexed.mutate hid
  entries {key j} hj := by
    rw [get?_mutate] at hj
    split at hj
    · obtain ⟨i, hi, rfl⟩ := Option.map_eq_some_iff.mp hj
      have hneat := hchange i (h.entries hi)
      exact ⟨hneat.properties, hneat.state⟩
    · exact h.entries hj

/-- A neat store stays so when the state under a key is removed. -/
theorem Neat.removeStateValue (h : s.Neat) : (s.removeStateValue id key).2.Neat := by
  rw [Store.removeStateValue]
  split
  · exact h
  · exact h.mutate (fun _ => rfl) fun _ hi => ⟨hi.properties, hi.state.erase⟩

/-- A neat store stays so when a property is given. -/
theorem Neat.setProperty (h : s.Neat) : (s.setProperty id key v).2.Neat :=
  h.mutate (fun _ => rfl) fun _ hi => ⟨hi.properties.insert, hi.state⟩

/-- A neat store stays so when an instance is presented differently. -/
theorem Neat.present (h : s.Neat) {change : Presentation → Presentation} :
    (s.present id change).2.Neat :=
  h.mutate (fun _ => rfl) fun _ hi => ⟨hi.properties, hi.state⟩

/-- A neat store stays so under writes. -/
theorem Neat.write (h : s.Neat) {w : StoreWrite} (hw : (StoreOp.write id w).Neat) :
    (s.write id w).2.Neat := by
  cases w with
  | update u =>
      refine h.mutate (fun _ => rfl) fun i hi => ⟨?_, ?_⟩
      · change Dict.Sorted (u.properties.getD i.properties)
        cases hp : u.properties with
        | none => exact hi.properties
        | some given => exact hw.properties given hp
      · change Dict.Sorted ((u.state.map (Value.mergeFields i.state)).getD i.state)
        cases u.state with
        | none => exact hi.state
        | some given => exact Value.sorted_mergeFields hi.state given
  | setProperty key v => exact h.setProperty
  | give key v =>
      rw [Store.write, view_setProperty]
      exact h.setProperty.removeStateValue
  | setStateValue key v =>
      exact h.mutate (fun _ => rfl) fun _ hi => ⟨hi.properties, hi.state.insert⟩
  | removeStateValue key => exact h.removeStateValue
  | setStyle property v => exact h.present
  | addClass name => exact h.present
  | removeClass name => exact h.present
  | setHidden hidden => exact h.present

/-- A neat store stays so under operations that bring nothing else into it. -/
theorem Neat.perform (h : s.Neat) (hop : op.Neat) : (s.perform op).2.Neat := by
  cases op with
  | register i =>
      refine ⟨h.toIndexed.register i, fun {key j} hj => ?_⟩
      rw [Store.perform, get?_register] at hj
      split at hj
      · obtain rfl := Option.some.inj hj
        exact ⟨hop.properties, hop.state⟩
      · exact h.entries hj
  | write id w => exact h.write hop
  | remove id =>
      refine ⟨h.toIndexed.remove, fun {key j} hj => ?_⟩
      rw [Store.perform, get?_remove h.sorted] at hj
      split at hj
      · cases hj
      · exact h.entries hj
  | clear =>
      refine ⟨⟨.nil, fun _ he => absurd he List.not_mem_nil⟩, fun hj => ?_⟩
      exact absurd hj.symm (Option.some_ne_none _)

/-- **A neat store stays so** in every run of operations that bring nothing else into it. -/
theorem Neat.run (h : s.Neat) (hops : ∀ op ∈ ops, op.Neat) : (s.run ops).Neat := by
  refine List.foldlRecOn (motive := Neat) ops _ h fun t ht op hop => ht.perform (hops op hop)

/-! ### One operation -/

/-- The state under a key goes before the property of that name. -/
theorem property_setStateValue_self (hid : s.contains id = true) :
    View.property (s.setStateValue id key v).2 id key = some v := by
  obtain ⟨i, hi⟩ := contains_iff.mp hid
  change ((s.setStateValue id key v).2.get? id).bind _ = some v
  rw [setStateValue, get?_mutate, if_pos rfl, hi]
  change (Dict.get? (Dict.insert i.state key v) key).orElse _ = some v
  rw [Dict.get?_insert_self]
  rfl

/-- What was written to an effective property is read back. -/
theorem property_write_of_value? (hs : s.Neat) (hid : s.contains id = true) {w : StoreWrite}
    (h : w.value? key = some v) : View.property (s.write id w).2 id key = some v := by
  cases w with
  | give key' v' =>
      obtain ⟨rfl, heq⟩ := Option.ite_none_right_eq_some.mp h
      obtain rfl := Option.some.inj heq
      exact property_setProperty_self hs.tidy hid
  | setStateValue key' v' =>
      obtain ⟨rfl, heq⟩ := Option.ite_none_right_eq_some.mp h
      obtain rfl := Option.some.inj heq
      exact property_setStateValue_self hid
  | _ => exact nomatch h

/-- A write that spares an effective property keeps it. -/
theorem property_write_of_spares {w : StoreWrite} (hneat : (StoreOp.write id w).Neat)
    (h : w.Spares key) : View.property (s.write id w).2 id key = View.property s id key := by
  cases w with
  | update u =>
      refine property_mutate fun i _ => ?_
      rw [Instance.effective, Instance.effective, applyUpdate, h.1]
      cases hgiven : u.state with
      | none => rfl
      | some given =>
          have hkey := Dict.get?_eq_none_of_not_mem (h.2 given hgiven)
          rw [Option.map_some, Option.getD_some,
            Value.get?_mergeFields_of_none (hneat.state given hgiven) hkey]
          rfl
  | setProperty key' v =>
      refine property_mutate fun i _ => ?_
      rw [Instance.effective, Instance.effective, Dict.get?_insert_of_ne h]
  | give key' v => exact property_setProperty_of_ne fun _ => h
  | setStateValue key' v => exact property_setStateValue_of_ne fun _ => h
  | removeStateValue key' => exact property_removeStateValue_of_ne fun _ => h
  | setStyle property v => exact property_present
  | addClass name => exact property_present
  | removeClass name => exact property_present
  | setHidden hidden => exact property_present

/-- An operation that spares an effective property keeps it. -/
theorem property_perform_of_spares (hs : s.Neat) (hneat : op.Neat) (h : op.Spares id key) :
    View.property (s.perform op).2 id key = View.property s id key := by
  have hcongr {t : Store} (hget : t.get? id = s.get? id) :
      View.property t id key = View.property s id key := congrArg (·.bind (·.effective key)) hget
  cases op with
  | register i => exact hcongr (get?_register.trans (if_neg h))
  | write id' w =>
      by_cases hid : id' = id
      · subst hid
        exact property_write_of_spares hneat (h rfl)
      · obtain heq | ⟨-, hrewrites⟩ := s.write_cases id' w
        · rw [perform, heq]
        · exact hcongr (hrewrites.others (Ne.symm hid))
  | remove id' => exact hcongr ((get?_remove hs.sorted).trans (if_neg h))
  | clear => exact h.elim

/-- An operation that writes to an effective property sets it. -/
theorem property_perform_of_value? (hs : s.Neat) (hid : s.contains id = true)
    (h : op.value? id key = some v) : View.property (s.perform op).2 id key = some v := by
  cases op with
  | write id' w =>
      obtain ⟨rfl, hw⟩ := Option.ite_none_right_eq_some.mp h
      exact property_write_of_value? hs hid hw
  | _ => exact nomatch h

/-- **One operation**: an effective property has the value that is written to it, or else the one
that it had, and its instance stays. -/
theorem property_perform (hs : s.Neat) (hneat : op.Neat) (hid : s.contains id = true)
    (h : (op.value? id key).isSome = true ∨ op.Spares id key) :
    View.property (s.perform op).2 id key = (op.value? id key).or (View.property s id key) ∧
      (s.perform op).2.contains id = true := by
  have hstays (hreplaces : op.replaces id = false) : (s.perform op).2.contains id = true := by
    obtain ⟨i, hi⟩ := contains_iff.mp hid
    obtain ⟨j, hj, -⟩ := exists_perform hs.toIndexed hreplaces hi
    exact contains_iff.mpr ⟨j, hj⟩
  cases hv : op.value? id key with
  | some v => exact ⟨property_perform_of_value? hs hid hv, hstays (StoreOp.replaces_of_value? hv)⟩
  | none =>
      have hspares : op.Spares id key := h.resolve_left (by rw [hv]; exact Bool.false_ne_true)
      exact ⟨property_perform_of_spares hs hneat hspares, hstays hspares.replaces⟩

/-! ### Runs -/

/-- **A run of operations**: an effective property has the value that was written to it last, or
else the one that it had. -/
theorem property_run (hs : s.Neat) (hneat : ∀ op ∈ ops, op.Neat) (hid : s.contains id = true)
    (hops : ∀ op ∈ ops, (op.value? id key).isSome = true ∨ op.Spares id key) :
    View.property (s.run ops) id key =
      (ops.filterMap (·.value? id key)).getLast?.or (View.property s id key) := by
  induction ops generalizing s with
  | nil => rfl
  | cons op rest ih =>
      obtain ⟨hfirst, hrest⟩ := List.forall_mem_cons.mp hneat
      obtain ⟨hop, hops⟩ := List.forall_mem_cons.mp hops
      obtain ⟨hproperty, hstays⟩ := property_perform hs hfirst hid hop
      have hrun := ih (hs.perform hfirst) hrest hstays hops
      rw [hproperty] at hrun
      rw [run, List.foldl_cons, ← run, hrun, List.filterMap_cons]
      cases op.value? id key with
      | none => rfl
      | some v =>
          rw [List.getLast?_cons]
          cases (rest.filterMap (·.value? id key)).getLast? <;> rfl

/-- Receiving deliveries is a run of writes. -/
theorem receiveAll_eq_run (s : Store) (ds : List Delivery) :
    s.receiveAll ds = s.run (ds.map (·.write)) := by
  rw [receiveAll, run, List.foldl_map]
  rfl

/-- **After a propagation** a point has the value that was delivered there last, or else the one
that it had. -/
theorem property_propagate (hs : s.Neat) (g : Graph) (source target : Endpoint) (v : Value)
    (hid : s.contains target.component = true) :
    View.property (g.propagate source v s).2.1 target.component target.point =
      (lastTo target (g.propagate source v s).1).or
        (View.property s target.component target.point) := by
  have hneat : ∀ ds : List Delivery, ∀ op ∈ ds.map (·.write), op.Neat := fun ds op hop => by
    obtain ⟨d, -, rfl⟩ := List.mem_map.mp hop
    trivial
  have hops : ∀ ds : List Delivery, ∀ op ∈ ds.map (·.write),
      (op.value? target.component target.point).isSome = true ∨
        op.Spares target.component target.point := fun ds op hop => by
    obtain ⟨d, -, rfl⟩ := List.mem_map.mp hop
    exact d.write_cases target
  rw [Graph.propagate_eq_carrying, receiveAll_eq_run, property_run hs (hneat _) hid (hops _),
    lastTo_eq_getLast?]

/-! ### Readers -/

/-- The listing of all effective properties gives each of them under its key. -/
theorem get?_effectiveAll {i : Instance} (h : i.Neat) :
    Dict.get? i.effectiveAll key = i.effective key := by
  rw [Instance.effectiveAll, h.state.get?_union, Instance.effective, Option.orElse_eq_or]

/-- The listing of all effective properties of an instance is a dictionary. -/
theorem sorted_effectiveAll {i : Instance} (h : i.Neat) : Dict.Sorted i.effectiveAll :=
  h.properties.union i.state

/-- A key stands with a value in the listing of all effective properties exactly if this is the
effective property. -/
theorem mem_properties_iff (hs : s.Neat) :
    (∃ all, View.properties s id = some all ∧ (key, x) ∈ all) ↔
      View.property s id key = some x := by
  change (∃ all, (s.get? id).map (·.effectiveAll) = some all ∧ _) ↔
    (s.get? id).bind (·.effective key) = some x
  cases hi : s.get? id with
  | none => simp
  | some i =>
      have hneat := hs.entries hi
      simp only [Option.map_some, Option.some.injEq, exists_eq_left', Option.bind_some,
        (sorted_effectiveAll hneat).mem_iff, get?_effectiveAll hneat]

/-- The context that an instance is rendered from has the effective properties, and the defaults of
the definition under the keys that have none. -/
theorem get?_renderContext {i : Instance} (h : i.Neat) {d : Definition}
    (hd : Dict.Sorted d.defaults) (children : List Output) :
    Dict.get? (renderContext d i children).properties key =
      (i.effective key).or (Dict.get? d.defaults key) := by
  change Dict.get? (Dict.union (Dict.union (Dict.union [] d.defaults) i.properties) i.state) key = _
  rw [h.state.get?_union, h.properties.get?_union, hd.get?_union, Instance.effective,
    Option.orElse_eq_or, Option.or_assoc]
  exact congrArg _ (congrArg _ (Option.or_none))

/-- **The last write wins, and all readers agree.** Take a neat store and operations that bring
nothing else into it.

* An effective property of an instance to which every operation writes, or that it spares, has after
  them the value that was written last. If none writes to it, it has the value that it had.
* The listing of all effective properties is there if the instance is, and a key stands in it with a
  value exactly if this is the effective property.
* An instance is rendered from its effective properties and, under the keys that have none, from the
  defaults of its definition. -/
theorem latest_write (hs : s.Neat) (hneat : ∀ op ∈ ops, op.Neat) :
    (∀ id key, s.contains id = true →
      (∀ op ∈ ops, (op.value? id key).isSome = true ∨ op.Spares id key) →
        View.property (s.run ops) id key =
          (ops.filterMap (·.value? id key)).getLast?.or (View.property s id key)) ∧
    (∀ id, (View.properties (s.run ops) id).isSome = (s.run ops).contains id) ∧
    (∀ id key x, (∃ all, View.properties (s.run ops) id = some all ∧ (key, x) ∈ all) ↔
      View.property (s.run ops) id key = some x) ∧
    (∀ id i d children key, (s.run ops).get? id = some i → Dict.Sorted d.defaults →
      Dict.get? (renderContext d i children).properties key =
        (View.property (s.run ops) id key).or (Dict.get? d.defaults key)) := by
  have hrun : (s.run ops).Neat := hs.run hneat
  refine ⟨fun id key hid hops => property_run hs hneat hid hops, fun id => ?_,
    fun id key x => ?_, fun id i d children key hi hd => ?_⟩
  · exact Option.isSome_map
  · exact mem_properties_iff hrun
  · rw [get?_renderContext (hrun.entries hi) hd]
    change _ = (((s.run ops).get? id).bind _).or _
    rw [hi]
    rfl

/-- A text in a store of its own. -/
def labelled : Store :=
  ({} : Store).register { id := "t", kind := .text, properties := [("text", .str "a")] }

/-- A delivery hides the text that was given, a write takes the place of both, and a null that is
sent after that is the last one. -/
def relabelled : List StoreOp :=
  [.write "t" (.setStateValue "text" (.str "b")), .write "t" (.give "text" (.str "c")),
   .write "t" (.addClass "marked"), .write "t" (.setStateValue "text" .null),
   .write "t" (.setProperty "size" (.ofInt 1)),
   .register { id := "u", kind := .text, properties := [] }]

/-- The null is what is read and what the listing has. -/
theorem latest_write_relabelled :
    labelled.Neat ∧ (∀ op ∈ relabelled, op.Neat) ∧
      View.property (labelled.run relabelled) "t" "text" = some .null ∧
      ∃ all, View.properties (labelled.run relabelled) "t" = some all ∧ ("text", .null) ∈ all := by
  have htext : StoreOp.Neat (.register
      { id := "t", kind := .text, properties := [("text", .str "a")] }) :=
    ⟨List.pairwise_singleton _ _, .nil⟩
  have hneat : labelled.Neat := Neat.empty.perform htext
  have hops : ∀ op ∈ relabelled, op.Neat := by
    simp only [relabelled, List.forall_mem_cons, StoreOp.Neat, true_and]
    exact ⟨⟨.nil, .nil⟩, List.forall_mem_nil _⟩
  have hspares : ∀ op ∈ relabelled,
      (op.value? "t" "text").isSome = true ∨ op.Spares "t" "text" := by
    simp [relabelled, StoreOp.value?, StoreWrite.value?, StoreOp.Spares, StoreWrite.Spares]
  obtain ⟨hlast, -, hall, -⟩ := latest_write hneat hops
  have hwritten : relabelled.filterMap (·.value? "t" "text") = [.str "b", .str "c", .null] := rfl
  have hnull : View.property (labelled.run relabelled) "t" "text" = some .null := by
    rw [hlast "t" "text" rfl hspares, hwritten]
    rfl
  exact ⟨hneat, hops, hnull, (hall "t" "text" .null).mpr hnull⟩

end Store

end WidgetFlow
